import TypeAtlas.Proofs.Extract.Scoped

/-!
Checking the scopes of a program. A usage is listed, and that it tells what all types use and that by it
the program is well scoped is decided from the records.
-/

namespace TypeAtlas

def Usage.listed (named inline : List (List String)) : Usage where
  named type := named.getD type.index []
  inline type := inline.getD type.index []

namespace Engine

variable (e : Engine) (u : Usage)

def passesWritten (check : TypeId → Option String → Bool) (site : Site) : Bool :=
  site.kind != .typeReference ||
    match site.answers.type with
    | some (some type) => check type site.name
    | _ => true

variable {e} in
/-- A check that passes for all types by their own names and for all written references passes wherever
a type is known by a name. -/
theorem Known.passes {check : TypeId → Option String → Bool}
    (own : ∀ type, check type (e.nameOf (e.program.type type)) = true)
    (sites : ∀ site ∈ e.program.sites.toList, passesWritten check site = true)
    {type : TypeId} {name : Option String} (known : e.Known type name) : check type name = true := by
  induction known with
  | named => exact own type
  | @written site reference denoted =>
      have kind : (e.program.site site).kind = .typeReference := by
        simpa [Program.isReferenceSite, Program.hasKind] using reference
      have fit := e.program.site_of_forall (passesWritten check · = true) rfl sites site
      simpa [passesWritten, kind, Build.answer_of_typeAt denoted] using fit

def referredUses (type : TypeId) : List String :=
  let info := e.program.type type
  (if info.isTypeParameter then (e.program.parameterName? type).toList else []) ++
    info.keyofOperand?.elim [] u.named ++
    if e.isAliased type then u.all info.aliasArguments.slots
    else u.all info.arguments.slots ++ e.hiddenUses u type

def tellsKnown (type : TypeId) (name : Option String) : Bool :=
  !e.isWrittenOut type name || (u.inline type).all (· ∈ u.named type)

def tellsType (type : TypeId) : Bool :=
  (e.referredUses u type).all (· ∈ u.named type) && (e.writtenUses u type).all (· ∈ u.inline type) &&
    e.tellsKnown u type (e.nameOf (e.program.type type))

def isTold (named inline : List (List String)) : Bool :=
  let u := Usage.listed named inline
  decide (inline.length ≤ e.program.types.size) &&
    (List.range e.program.types.size).all (fun index => e.tellsType u ⟨index⟩) &&
    e.program.sites.toList.all (passesWritten (e.tellsKnown u))

variable {e} {u}

theorem tellsType_of_size_le {type : TypeId} (outside : e.program.types.size ≤ type.index)
    (nothing : u.inline type = []) : e.tellsType u type = true := by
  have held := e.program.type_of_size_le outside
  have referred : e.referredUses u type = [] := by
    simp only [referredUses, isAliased, hiddenUses, held]
    rfl
  have written : e.writtenUses u type = [] := by
    simp only [writtenUses, Program.terminalUses, isCombined, hiddenUses, held]
    rfl
  simp [tellsType, tellsKnown, referred, written, nothing]

theorem subset_of_tellsKnown {type : TypeId} {name : Option String}
    (tells : e.tellsKnown u type name = true) (writtenOut : e.isWrittenOut type name = true) :
    u.inline type ⊆ u.named type := by
  intro name used
  simp only [tellsKnown, writtenOut, Bool.not_true, Bool.false_or, List.all_eq_true,
    decide_eq_true_iff] at tells
  exact tells name used

theorem tells_of_isTold {named inline : List (List String)} (checked : e.isTold named inline = true) :
    e.Tells (Usage.listed named inline) := by
  simp only [isTold, Bool.and_eq_true, List.all_eq_true, List.mem_range, decide_eq_true_iff] at checked
  obtain ⟨⟨bounded, types⟩, sites⟩ := checked
  have told (type : TypeId) : e.tellsType (Usage.listed named inline) type = true := by
    by_cases there : type.index < e.program.types.size
    · exact types type.index there
    · have outside := Nat.le_of_not_lt there
      refine tellsType_of_size_le outside ?_
      simp [Usage.listed, List.getElem?_eq_none (Nat.le_trans bounded outside)]
  have parts (type : TypeId) :
      (e.referredUses (Usage.listed named inline) type ⊆ (Usage.listed named inline).named type ∧
        e.writtenUses (Usage.listed named inline) type ⊆ (Usage.listed named inline).inline type) ∧
      e.tellsKnown (Usage.listed named inline) type (e.nameOf (e.program.type type)) = true := by
    simpa only [tellsType, Bool.and_eq_true, List.all_eq_true, decide_eq_true_iff,
      List.subset_def] using told type
  refine
    { parameter := fun type symbol isParameter held => (parts type).1.1 ?_
      keyof := fun type operand ofKeys name used => (parts type).1.1 ?_
      arguments := fun type unaliased name used => (parts type).1.1 ?_
      aliasArguments := fun type aliased name used => (parts type).1.1 ?_
      hidden := fun type unaliased name used => (parts type).1.1 ?_
      writtenOut := fun type name known => subset_of_tellsKnown ?_
      inline := fun type => (parts type).1.2 }
  · simp [referredUses, isParameter, Program.parameterName?, held]
  · simp [referredUses, ofKeys, used]
  · simp [referredUses, unaliased, used]
  · simp [referredUses, aliased, used]
  · simp [referredUses, unaliased, used]
  · exact known.passes (fun type => (parts type).2) sites

section Scoped

variable (e u)

/-- Whether the body that a type may have built under a name uses only what it binds. -/
def isScopedKnown (type : TypeId) (name : Option String) : Bool :=
  e.isAliased type || e.isWrittenOut type name || (e.entryUses u (e.entryType type)).isEmpty

def isScopedType (type : TypeId) : Bool :=
  let info := e.program.type type
  e.isScopedKnown u type (e.nameOf info) &&
    (!info.isReference || (e.entryUses u (e.entryType type)).isEmpty) &&
    (info.alias?.bind fun symbol => e.program.firstDeclaration (some symbol)).all
      fun site => (e.aliasUses u site).isEmpty

def isScopedBase (site : Option SiteId) : Bool :=
  match e.program.typeAt site, site.bind e.baseName with
  | .ok (some base), some name =>
    (u.named base).isEmpty || (name != RootKind.syntheticName &&
      e.program.rootSymbols.all fun symbol => (e.program.symbol symbol).name != name)
  | _, _ => true

def isScopedSite (site : Site) : Bool :=
  passesWritten (e.isScopedKnown u) site &&
    site.heritage.all fun clause => clause.types.all (e.isScopedBase u)

def isScopedRoot (symbol : SymbolId) : Bool :=
  let info := e.program.symbol symbol
  !e.isAnonymous info.name && (info.declarations.first?.toList ++ info.valueDeclaration.toList).all
    fun site => (e.program.rootUses u site (RootKind.sortOf info)).isEmpty &&
      (info.name != RootKind.defaultName || (e.program.rootUses u site .default).isEmpty)

def isWellScoped : Bool :=
  (List.range e.program.types.size).all (fun index => e.isScopedType u ⟨index⟩) &&
    e.program.sites.toList.all (e.isScopedSite u) && e.program.rootSymbols.all (e.isScopedRoot u)

variable {e u}

theorem isScopedType_of_size_le {type : TypeId} (outside : e.program.types.size ≤ type.index) :
    e.isScopedType u type = true := by
  have held := e.program.type_of_size_le outside
  have nameless : e.isWrittenOut type (e.nameOf default) = true := rfl
  have plain : (default : TypeInfo).isReference = false := rfl
  have unaliased : (default : TypeInfo).alias? = none := rfl
  simp [isScopedType, isScopedKnown, held, nameless, plain, unaliased]

theorem wellScoped_of_isWellScoped (checked : e.isWellScoped u = true) : e.WellScoped u := by
  simp only [isWellScoped, Bool.and_eq_true, List.all_eq_true, List.mem_range] at checked
  obtain ⟨⟨types, sites⟩, roots⟩ := checked
  have typed (type : TypeId) : e.isScopedType u type = true := by
    by_cases there : type.index < e.program.types.size
    · exact types type.index there
    · exact isScopedType_of_size_le (Nat.le_of_not_lt there)
  have owned (type : TypeId) : e.isScopedKnown u type (e.nameOf (e.program.type type)) = true := by
    have fit := typed type
    simp only [isScopedType, Bool.and_eq_true] at fit
    exact fit.1.1
  simp only [isScopedSite, Bool.and_eq_true, List.all_eq_true] at sites
  have based (declaration : SiteId) :=
    e.program.site_of_forall (fun s => ∀ clause ∈ s.heritage, ∀ site ∈ clause.types,
      e.isScopedBase u site = true) nofun (fun s member => (sites s member).2) declaration
  have rooted {symbol : SymbolId} (isRoot : e.program.IsRoot symbol) :=
    roots symbol isRoot.mem_rootSymbols
  have used {symbol : SymbolId} {site : SiteId} (isRoot : e.program.IsRoot symbol)
      (declared : e.program.DeclaredAt symbol site) :
      e.program.rootUses u site (RootKind.sortOf (e.program.symbol symbol)) = [] ∧
        ((e.program.symbol symbol).name = RootKind.defaultName →
          e.program.rootUses u site .default = []) := by
    have fit := rooted isRoot
    simp only [isScopedRoot, Bool.and_eq_true, List.all_eq_true] at fit
    have listed : site ∈ (e.program.symbol symbol).declarations.first?.toList ++
        (e.program.symbol symbol).valueDeclaration.toList := by
      cases declared with
      | first first => simp [first]
      | value place => simp [place]
    refine ⟨List.isEmpty_iff.mp (fit.2 site listed).1, fun called => ?_⟩
    simpa [called] using (fit.2 site listed).2
  refine
    { types := fun type name enters => ?_
      aliases := fun type symbol site aliased declared => ?_
      bases := fun declaration clause held site listed base name denoted written isRoot => ?_
      roots := fun symbol site isRoot declared => (used isRoot declared).1
      defaults := fun symbol site isRoot called declared => (used isRoot declared).2 called
      anonymous := fun symbol type isRoot _ anonymous => ?_ }
  · have fit := typed type
    cases enters with
    | known known unaliased named =>
        have fit := Known.passes owned (fun site held => (sites site held).1) known
        simpa [isScopedKnown, unaliased, named] using fit
    | instantiated reference held =>
        simp only [isScopedType, reference, Bool.and_eq_true] at fit
        simpa using fit.1.2
  · have fit := typed type
    simp only [isScopedType, aliased, Bool.and_eq_true] at fit
    simpa [declared] using fit.2
  · have fit := based declaration clause held (some site) listed
    simp only [isScopedBase, denoted, Option.bind_some, written, Bool.or_eq_true] at fit
    refine List.isEmpty_iff.mp (fit.resolve_right fun apart => ?_)
    simp only [Bool.and_eq_true, bne_iff_ne, List.all_eq_true] at apart
    rcases isRoot with same | ⟨symbol, isRoot, same⟩
    · exact apart.1 same
    · exact apart.2 symbol isRoot.mem_rootSymbols same
  · have fit := rooted isRoot
    simp [isScopedRoot, anonymous] at fit

end Scoped

end Engine

end TypeAtlas
