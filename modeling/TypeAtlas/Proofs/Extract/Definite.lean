import TypeAtlas.Proofs.Extract.Exporting
import TypeAtlas.Proofs.Extract.RecurringDefault

/-!
Programs that are steady. What a built program does not settle by itself is that names are claimed once,
that references fit what they refer to, and that no enumeration passes for made up.
-/

namespace TypeAtlas

open Extract Build

/-- Enumerations, the only unions with a symbol, are not called like something the compiler made up. -/
def Program.EnumerationsGiven (p : Program) : Prop :=
  ∀ type symbol, (p.type type).isUnion = true → (p.type type).symbol = some symbol →
    isSynthesized (p.symbol symbol).name = false

namespace Engine

variable {e : Engine} {manner : Manner} {ages : Ages} {now : Nat}

/-- Of a `keyof` nothing is told inline. -/
theorem includeInline_of_keyof {type : TypeId} (flags : (e.program.type type).flags = [.index])
    (unnamed : (e.program.type type).symbol = none) :
    e.includeInline type = e.unidentified type := by
  have unmarked (flag : TypeFlag) (other : flag ≠ .index) :
      (e.program.type type).hasFlag flag = false := by
    rw [TypeInfo.hasFlag, flags]
    simpa using other
  have object : (e.program.type type).isObject = false := unmarked .object (by decide)
  have basic : e.includeBasic type = pure none := by
    simp only [includeBasic, flags]
    rfl
  have combinator : e.includeCombinator type = pure none := by
    simp only [includeCombinator, Program.isTuple, TypeInfo.isReference, object, TypeInfo.isUnion,
      TypeInfo.isIntersection, TypeInfo.isIndexedAccess, unmarked .union (by decide),
      unmarked .intersection (by decide), unmarked .indexedAccess (by decide)]
    rfl
  have hidden : e.includeHidden type = pure none := by simp only [includeHidden, unnamed]
  have shape : e.includeObject type = pure none := by simp [includeObject, object]
  simp [includeInline, firstOf, basic, combinator, hidden, shape]

theorem rewrites_of_spelled (spelled : e.program.Spelled) (fits : e.program.Fits manner ages now)
    (given : e.program.EnumerationsGiven) {type : TypeId} {symbol : SymbolId} {site written : SiteId}
    (aliased : (e.program.type type).alias? = some symbol)
    (declared : e.program.firstDeclaration (some symbol) = some site)
    (right : (e.program.site site).type = some written) : e.Rewrites site written := by
  obtain ⟨place, beside, stands, -, declarations, -, wrote, answer, isWritten, unnamed, answered, known⟩ :=
    (spelled.formed type).aliased symbol aliased
  obtain rfl : place = site := by
    simpa [Program.firstDeclaration, declarations, Slots.first?, Slots.slots, Slots.of] using declared
  obtain rfl : beside = written := by
    rw [wrote] at right
    exact Option.some.inj right
  have stood := (Program.asked_of_answer answer).1
  have spells := spelled.spells beside isWritten stands answered
  have certain : (e.program.site beside).kind ≠ .inferType := by
    intro inferred
    have listed := spells.inferred inferred
    rw [((fits.types stands).parameter (fits.inferred stands listed)).1] at known
    cases known
  cases keyof : (e.program.type stands).keyofOperand? with
  | some operand =>
      have flagged : (e.program.type stands).hasFlag .index = true := by
        unfold TypeInfo.keyofOperand? at keyof
        split at keyof
        · assumption
        · cases keyof
      refine .bare stood fun entries w => ?_
      rw [includeInline_of_keyof (e := e.opening entries) ((fits.types stands).index flagged)
        ((fits.types stands).keyof flagged)]
      exact ⟨_, _, rfl, rfl, rfl, rfl, rfl⟩
  | none =>
      refine .spelled stood (includeAnnotation_of_parts spelled isWritten unnamed certain answered
        ⟨keyof, fun united => ?_⟩)
      cases held : (e.program.type stands).symbol with
      | none => rfl
      | some own =>
          have synthesized := ((fits.types stands).aliased symbol known).2 own held
          rw [given stands own united held] at synthesized
          cases synthesized

/-- Distinct things go by distinct names, and every reference fits what it refers to. What a base lists
is told by its name, and a default export goes by the whole name of what it names. -/
structure Definite (e : Engine) : Prop where
  prefixed : e.settings.anonymousStart = "__"
  named : e.program.NominalsNamed e.settings
  given : e.program.EnumerationsGiven
  aliases : e.program.AliasesNamed
  bases : e.program.BasesFit
  apart : e.program.RootsApart e.settings
  distinct : e.Distinct
  unrivalled : e.Unrivalled
  fitting : e.Fitting
  shaped : ∀ type, e.Shaped (e.entryType type)
  bare : e.DefaultsBare

theorem moduleApart_of_lineage (fits : e.program.Fits manner ages now)
    (lineage : e.program.Lineage ages) : e.ModuleApart := by
  intro type known held
  rw [TypeInfo.isClass, Bool.and_eq_true] at known
  have nominal : (e.program.type type).isNominal = true := by
    rw [TypeInfo.isNominal, known.2, Bool.or_true]
  obtain ⟨-, -, -, -, -, symbol, same, other⟩ := (fits.types type).nominal nominal
  cases held.symm.trans same
  rw [lineage.module.1] at other
  cases other

theorem steady_of_built {p : Program}
    (built : p.Built fun call q => call.Disciplined q ∧ call.AddsNew q) (program : e.program = p)
    (definite : e.Definite) :
    e.ModuleApart ∧ ∃ manner ages now rank, e.Steady manner ages now rank := by
  subst program
  obtain ⟨ages, live, lineage, traced⟩ := lineage_of_built { disciplined := True, nameless := False } built
    fun call p ⟨disciplined, new⟩ => ⟨⟨fun _ => disciplined, False.elim⟩, disciplined, new⟩
  have fits := live.toFits
  have bases : BasesNamed { program := e.program, settings := e.settings, libraries := e.libraries } :=
    basesNamed_of_fits fits definite.named definite.bases
  refine ⟨moduleApart_of_lineage fits lineage, _, ages, _, e.program.rank ages,
    { fits
      unrivalled := definite.unrivalled
      fitting := definite.fitting
      distinct := definite.distinct
      shaped := definite.shaped
      lineal := lineal_of_lineage fits lineage traced
      suits := ?_
      bases
      listed := fun type => ((parametric_of_built built).types type).listed
      rewrites := rewrites_of_spelled (spelled_of_built built) fits definite.given }⟩
  rintro declaration token base ⟨clause, held, -, site, listed, denoted⟩
  exact suited_of_isBase fits lineage traced definite.named definite.aliases
    (definite.bases declaration clause held site listed base denoted)

section Checks

def calledNames (e : Engine) (type : TypeId) : List String :=
  (e.nameOf (e.program.type type)).toList ++
    (e.program.type type).symbol.toList.map (fun symbol => (e.program.symbol symbol).name) ++
    e.program.sites.toList.filterMap fun s =>
      if s.kind == .typeReference && s.answers.type == some (some type) then s.name else none

/-- What a name may be claimed for in a program of its own that has no default export. -/
abbrev Claimant := TypeId ⊕ RootKind × SiteId

def Claimant.maker : Claimant → Maker
  | .inl type => .type type
  | .inr (kind, site) => .root kind site

def typesCalled (e : Engine) : List (TypeId × String) :=
  let types := (List.range e.program.types.size).map TypeId.mk ++
    e.program.sites.toList.filterMap (·.answers.type.join)
  types.flatMap fun type => (e.calledNames type).map (type, ·)

def claimants (e : Engine) (exports : List SymbolId) : List (String × Claimant) :=
  (e.typesCalled.filterMap fun (type, name) =>
      if e.isMade type && ((e.program.type type).isReference ||
        !e.isAliased type && !e.isWrittenOut type (some name)) then some (name, .inl (e.entryType type))
      else none) ++
    (e.typesCalled.filterMap fun (type, name) =>
      (e.program.firstDeclaration (e.program.type type).alias?).map fun site =>
        (name, .inr (.named, site))) ++
    exports.flatMap fun symbol =>
      let record := e.program.symbol symbol
      if RootKind.sortOf record = .type then []
      else (record.declarations.first?.toList ++ record.valueDeclaration.toList).map
        fun site => (record.name, .inr (RootKind.sortOf record, site))

theorem mem_typesCalled_of_site {type : TypeId} {site : SiteId} {name : String}
    (reference : e.program.isReferenceSite (some site) = true)
    (denoted : e.program.typeAt (some site) = .ok (some type))
    (called : (e.program.site site).name = some name) : (type, name) ∈ e.typesCalled := by
  have kind : (e.program.site site).kind = .typeReference := by
    simpa [Program.isReferenceSite, Program.hasKind] using reference
  have inside := e.program.site_of_forall (fun s => s.kind = .typeReference → s ∈ e.program.sites.toList)
    (fun kind => by cases kind) (fun s member _ => member) site kind
  have answer := answer_of_typeAt denoted
  have listed : name ∈ e.calledNames type :=
    List.mem_append_right _ (List.mem_filterMap.mpr ⟨_, inside, by simp [kind, answer, called]⟩)
  refine List.mem_flatMap.mpr ⟨type, List.mem_append_right _ ?_, List.mem_map_of_mem listed⟩
  exact List.mem_filterMap.mpr ⟨_, inside, by simp [answer]⟩

theorem mem_typesCalled_of_inside {type : TypeId} {name : String} (listed : name ∈ e.calledNames type)
    (known : e.program.type type ≠ default) : (type, name) ∈ e.typesCalled := by
  refine List.mem_flatMap.mpr ⟨type, List.mem_append_left _ ?_, List.mem_map_of_mem listed⟩
  refine List.mem_map.mpr ⟨type.index, List.mem_range.mpr ?_, rfl⟩
  by_contra outside
  exact known (e.program.type_of_size_le (Nat.le_of_not_lt outside))

theorem mem_typesCalled {type : TypeId} {name : String} (called : e.Called type name) :
    (type, name) ∈ e.typesCalled := by
  cases called with
  | named named =>
      refine mem_typesCalled_of_inside (by simp [calledNames, named]) fun absent => ?_
      rw [absent] at named
      cases named
  | written reference denoted called => exact mem_typesCalled_of_site reference denoted called

theorem mem_typesCalled_of_enters {type : TypeId} {name : String} (enters : e.Enters type name) :
    (type, name) ∈ e.typesCalled := by
  cases enters with
  | known known =>
      generalize same : some name = called at known
      cases known with
      | named => exact mem_typesCalled (.named same.symm)
      | written reference denoted => exact mem_typesCalled_of_site reference denoted same.symm
  | @instantiated symbol reference held =>
      refine mem_typesCalled_of_inside (by simp [calledNames, held]) fun absent => ?_
      rw [absent] at held
      cases held

section Claimants

variable (inside : ∀ symbol, (e.originOf (some symbol)).scope? = none) {exports : List SymbolId}
  (listed : (e.program.symbol e.program.moduleSymbol).exports.each = .ok (exports.map some))
  (plain : ∀ symbol ∈ exports, (e.program.symbol symbol).name ≠ RootKind.defaultName)
include listed plain

theorem not_hasDefault {site : SiteId} : ¬ e.program.HasDefault site := by
  rintro ⟨found, symbol, same, member, called, -⟩
  rw [listed, Except.ok.injEq] at same
  subst same
  obtain ⟨_, there, same⟩ := List.mem_map.mp member
  cases same
  exact plain _ there called

include inside in
/-- Whether distinct things go by distinct names in a program of its own that has no default export. -/
theorem unrivalled_of_claimants
    (told : ∀ a ∈ e.claimants exports, ∀ b ∈ e.claimants exports, a.1 = b.1 → a.2 = b.2) :
    e.Unrivalled := by
  have undefaulted {site : SiteId} : ¬ e.program.HasDefault site := not_hasDefault listed plain
  have claimed {name : String} {maker : Maker} (claims : e.Claims name maker) :
      ∃ claimant, (name, claimant) ∈ e.claimants exports ∧ maker = claimant.maker := by
    cases claims with
    | @type type name enters made domestic =>
        refine ⟨.inl (e.entryType type), ?_, rfl⟩
        refine List.mem_append_left _ (List.mem_append_left _ (List.mem_filterMap.mpr
          ⟨_, mem_typesCalled_of_enters enters, ?_⟩))
        cases enters with
        | known _ unaliased named => simp [made, unaliased, named]
        | instantiated reference => simp [made, reference]
    | @named type symbol site name called aliased domestic declared =>
        refine ⟨.inr (.named, site), ?_, rfl⟩
        refine List.mem_append_left _ (List.mem_append_right _ (List.mem_filterMap.mpr
          ⟨_, mem_typesCalled called, ?_⟩))
        simp [aliased, declared]
    | imported outside =>
        rw [inside] at outside
        cases outside
    | @root symbol site exported placed value =>
        refine ⟨.inr (_, site), ?_, rfl⟩
        have member : symbol ∈ exports := by
          cases exported with
          | listed same member =>
              rw [listed, Except.ok.injEq] at same
              subst same
              simpa using member
          | named default => exact absurd default undefaulted
        refine List.mem_append_right _ (List.mem_flatMap.mpr ⟨symbol, member, ?_⟩)
        simp only [value, if_false]
        cases placed with
        | first first => simp [first]
        | value place => simp [place]
    | default default => exact absurd default undefaulted
    | synthetic default => exact absurd default undefaulted
    | expression default => exact absurd default undefaulted
  intro name maker other claims rival
  obtain ⟨claimant, member, rfl⟩ := claimed claims
  obtain ⟨another, also, rfl⟩ := claimed rival
  exact congrArg Claimant.maker (told _ member _ also rfl)

theorem defaultsBare_of_plain : e.DefaultsBare :=
  fun _ _ _ _ default => absurd default (not_hasDefault listed plain)

end Claimants

def fits (e : Engine) (type : TypeId) : Bool :=
  let info := e.program.type type
  let entry := e.program.type (e.entryType type)
  info.arguments.slots.length ≤ (e.program.parameterNames entry.typeParameters.slots).length &&
    (e.program.firstDeclaration info.alias?).all (fun site =>
      info.aliasArguments.slots.length ≤
        (e.program.parameterNames (e.program.declaredParameters site)).length) &&
    (!e.isInstance (e.entryType type) || entry.isNominal) &&
    (!info.isUnion || info.symbol.all fun symbol => !isSynthesized (e.program.symbol symbol).name)

theorem fits_of_range (each : ((List.range e.program.types.size).map TypeId.mk).all e.fits = true)
    (type : TypeId) : e.fits type = true := by
  by_cases inside : type.index < e.program.types.size
  · exact List.all_eq_true.mp each type (List.mem_map.mpr ⟨type.index, List.mem_range.mpr inside, rfl⟩)
  · have absent : e.program.type type = default :=
      e.program.type_of_size_le (Nat.le_of_not_lt inside)
    have itself : e.entryType type = type := by
      rw [entryType, absent]
      rfl
    rw [fits, itself, isInstance, absent]
    rfl

theorem fitting_of_fits (each : ∀ type, e.fits type = true) : e.Fitting where
  types {type _} _ _ := by
    have fit := each type
    simp only [fits, Bool.and_eq_true, decide_eq_true_eq] at fit
    exact fit.1.1.1
  aliases {type symbol site} aliased _ declared := by
    have fit := each type
    simp only [fits, aliased, declared, Bool.and_eq_true, decide_eq_true_eq, Option.all_some] at fit
    exact fit.1.1.2

theorem shaped_of_fits (each : ∀ type, e.fits type = true) (type : TypeId) :
    e.Shaped (e.entryType type) := by
  intro instance_
  have fit := each type
  simp only [fits, instance_, Bool.and_eq_true, Bool.not_true, Bool.false_or] at fit
  exact fit.1.2

theorem enumerationsGiven_of_fits (each : ∀ type, e.fits type = true) :
    e.program.EnumerationsGiven := by
  intro type symbol united held
  have fit := each type
  simp only [fits, united, held, Bool.and_eq_true, Bool.not_true, Bool.false_or, Option.all_some,
    Bool.not_eq_true'] at fit
  exact fit.2

end Checks

end Engine

end TypeAtlas
