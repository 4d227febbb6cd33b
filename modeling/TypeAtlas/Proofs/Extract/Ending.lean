import TypeAtlas.Proofs.Extract.NestingShape
import TypeAtlas.Proofs.Extract.Orderly

/-!
Every extraction of a tame program ends, however its types refer to themselves and to each other.
-/

namespace TypeAtlas

namespace Engine

open Extract Build Program

variable {manner : Manner} {ages : Ages} {n k : Nat} {e : Engine}

theorem titles_nameOf (tame : e.program.Tame manner ages e.settings) (type : TypeId) :
    e.Titles type (e.nameOf (e.program.type type)) := by
  constructor
  · intro given named nonempty
    unfold nameOf at named
    dsimp only at named
    split at named
    · rename_i aliased held
      obtain ⟨symbol, _, rfl⟩ := Option.map_eq_some_iff.mp held
      split at named
      · rename_i empty
        cases own : (e.program.type type).symbol with
        | none =>
            rw [own] at named
            cases named
            rw [empty] at nonempty
            cases nonempty
        | some symbol =>
            rw [own] at named
            cases named
            exact mem_names_of_symbol nonempty
      · cases named
        exact mem_names_of_symbol nonempty
    · obtain ⟨symbol, _, rfl⟩ := Option.map_eq_some_iff.mp named
      exact mem_names_of_symbol nonempty
  · intro nominal
    obtain ⟨symbol, held, _, unaliased, _⟩ := name_of_nominal tame nominal
    rw [nameOf, unaliased]
    rfl

section Steps

variable (tame : e.program.Tame manner ages e.settings)
include tame

/-- An interface, a class or a type parameter is referred to without going into it. -/
theorem ends_includeKnown_of_named (begins : e.Begins n) {type : TypeId} {name : Option String}
    (titles : e.Titles type name)
    (named : (e.program.type type).isNominal = true ∨ (e.program.type type).isTypeParameter = true) :
    Ends e.program.names n (e.includeKnown type name) := by
  cases parameter : (e.program.type type).isTypeParameter with
  | true =>
      obtain ⟨-, symbol, held, -⟩ := (tame.types type).parameter parameter
      unfold includeKnown
      simp only [parameter, held]
      exact ends_bind (ends_typeParameterRef _) fun ref => ends_pure _
  | false =>
      have nominal : (e.program.type type).isNominal = true := by simpa [parameter] using named
      obtain ⟨symbol, held, known, unaliased, -⟩ := name_of_nominal tame nominal
      have usable := tame.named symbol known
      have arguments := ends_typeArguments_of_nominal (n := n) tame nominal
      have own := titles.2 nominal
      rw [held] at own
      have anonymous : (e.program.type type).isAnonymousObject = false := by
        rw [TypeInfo.isAnonymousObject, ((tame.types type).nominal nominal).2.2.1, Bool.and_false]
      have given : e.isAnonymous (e.program.symbol symbol).name = false := usable
      have nonempty : (e.program.symbol symbol).name.isEmpty = false := by
        rw [isAnonymous, Bool.or_eq_false_iff] at given
        exact given.1
      unfold includeKnown
      simp only [parameter, own, Option.map_some, nonempty, unaliased, given, anonymous,
        Option.isSome_none, Bool.false_and, Bool.or_self, Bool.false_eq_true, if_false]
      have structural (other : (e.program.type type).isNominal = false) :
          Ends e.program.names n (e.includeHidden type) := by
        rw [nominal] at other
        cases other
      refine ends_bind (ends_includeExternal tame arguments structural) fun outside => ?_
      cases outside with
      | some node => exact ends_pure node
      | none => exact ends_makeRef begins arguments (titles.1 _ own nonempty)

theorem ends_includeKnown_of_structural (reaches : e.Reaches manner ages n k) {type : TypeId}
    {name : Option String} (titles : e.Titles type name)
    (fits : TypeFits manner ages e.program k (e.program.type type))
    (structural : (e.program.type type).isNominal = false) :
    Ends e.program.names n (e.includeKnown type name) := by
  have inline := ends_includeInline tame reaches fits (Or.inr structural)
  have arguments := ends_typeArguments tame reaches fits
  have hidden := ends_includeHidden tame reaches fits
  unfold includeKnown
  dsimp only
  split
  · exact ends_bind (ends_typeParameterRef _) fun ref => ends_pure _
  · split
    · exact inline
    · rename_i name
      split
      · exact inline
      · rename_i nonempty
        have member : name ∈ e.program.names := titles.1 name rfl (by simpa using nonempty)
        split
        · exact ends_makeAliasRef tame reaches member fits
        · refine ends_bind (ends_includeExternal tame arguments fun _ => hidden) fun outside => ?_
          split
          · exact ends_pure _
          · split
            · exact inline
            · exact ends_makeRef reaches.toBegins arguments member

theorem ends_includeType_of_named (begins : e.Begins n) {type : TypeId}
    (named : (e.program.type type).isNominal = true ∨ (e.program.type type).isTypeParameter = true) :
    Ends e.program.names n (e.includeType type) := by
  have plain : (e.program.type type).keyofOperand? = none := by
    unfold TypeInfo.keyofOperand?
    cases flagged : (e.program.type type).hasFlag .index with
    | false => rfl
    | true =>
        have unnamed := (tame.types type).keyof flagged
        rcases named with nominal | parameter
        · obtain ⟨symbol, held, -⟩ := name_of_nominal tame nominal
          rw [unnamed] at held
          cases held
        · obtain ⟨-, symbol, held, -⟩ := (tame.types type).parameter parameter
          rw [unnamed] at held
          cases held
  unfold includeType
  simp only [plain]
  exact ends_includeKnown_of_named tame begins (titles_nameOf tame type) named

theorem ends_includeType_of_structural (reaches : e.Reaches manner ages n k) {type : TypeId}
    (fits : TypeFits manner ages e.program k (e.program.type type))
    (structural : (e.program.type type).isNominal = false) :
    Ends e.program.names n (e.includeType type) := by
  unfold includeType
  dsimp only
  split
  · rename_i operand held
    refine ends_keyofNode reaches ?_
    intro part same
    cases same
    refine near_of_part tame fits ?_
    unfold TypeInfo.keyofOperand? at held
    split at held
    · simp [TypeInfo.parts, held]
    · cases held
  · exact ends_includeKnown_of_structural tame reaches (titles_nameOf tame type) fits structural

end Steps

theorem begins_within (begins : e.Begins n) (depth : Nat) : (e.within depth).Begins n := by
  cases depth <;> exact ⟨begins.bodyOfType, begins.bodyOfAlias⟩

theorem reaches_within (tame : e.program.Tame manner ages e.settings) (begins : e.Begins n) (k : Nat) :
    (e.within (k + 1)).Reaches manner ages n k := by
  induction k with
  | zero =>
      refine ⟨begins_within begins 1, ?_, ?_, ?_⟩
      · rintro type (nominal | parameter | ⟨i, none, -⟩)
        · exact ends_includeType_of_named tame begins (Or.inl nominal)
        · exact ends_includeType_of_named tame begins (Or.inr parameter)
        · cases none
      · rintro type name (nominal | parameter | ⟨i, none, -⟩) titles
        · exact ends_includeKnown_of_named tame begins titles (Or.inl nominal)
        · exact ends_includeKnown_of_named tame begins titles (Or.inr parameter)
        · cases none
      · rintro type structural ⟨i, none, -⟩
        cases none
  | succ k ih =>
      have tame : (e.within (k + 1)).program.Tame manner ages (e.within (k + 1)).settings := tame
      have named : (e.within (k + 1)).Begins n := begins_within begins (k + 1)
      refine ⟨begins_within begins (k + 2), ?_, ?_, ?_⟩
      · rintro type (nominal | parameter | ⟨i, older, fits⟩)
        · exact ends_includeType_of_named tame named (Or.inl nominal)
        · exact ends_includeType_of_named tame named (Or.inr parameter)
        · cases nominal : (e.program.type type).isNominal with
          | true => exact ends_includeType_of_named tame named (Or.inl nominal)
          | false =>
              exact ends_includeType_of_structural tame ih (fits.later (Nat.le_of_lt_succ older)) nominal
      · rintro type name (nominal | parameter | ⟨i, older, fits⟩) titles
        · exact ends_includeKnown_of_named tame named titles (Or.inl nominal)
        · exact ends_includeKnown_of_named tame named titles (Or.inr parameter)
        · cases nominal : (e.program.type type).isNominal with
          | true => exact ends_includeKnown_of_named tame named titles (Or.inl nominal)
          | false =>
              exact ends_includeKnown_of_structural tame ih titles
                (fits.later (Nat.le_of_lt_succ older)) nominal
      · rintro type structural ⟨i, older, fits⟩
        exact ends_includeInline tame ih (fits.later (Nat.le_of_lt_succ older)) (Or.inr structural)

theorem reaches_levels (tame : e.program.Tame manner ages e.settings) (begins : e.Begins n)
    {depth : Nat} (enough : e.program.types.size < depth) :
    ∃ k, e.program.types.size ≤ k ∧ (e.within depth).Reaches manner ages n k := by
  obtain ⟨k, rfl⟩ : ∃ k, depth = k + 1 := ⟨depth - 1, by omega⟩
  exact ⟨k, Nat.le_of_lt_succ enough, reaches_within tame begins k⟩

theorem begins_withEntries (tame : e.program.Tame manner ages e.settings) {depth : Nat}
    (enough : e.program.types.size < depth) (n : Nat) : (e.withEntries depth n).Begins n := by
  induction n with
  | zero => exact ⟨nofun, nofun⟩
  | succ n ih =>
      have inner : (e.withEntries depth n).program.Tame manner ages (e.withEntries depth n).settings := by
        simpa using tame
      obtain ⟨k, full, reaches⟩ := reaches_levels inner ih (by simpa using enough)
      have bodies : ((e.withEntries depth n).within depth).program.Tame manner ages
          ((e.withEntries depth n).within depth).settings := by
        simpa using tame
      have full : ((e.withEntries depth n).within depth).program.types.size ≤ k := by
        simpa using full
      constructor
      · intro type m less
        cases less
        have ends := ends_includeNamed bodies reaches full type
        rwa [program_within, program_withEntries] at ends
      · intro site m less
        cases less
        have ends := ends_aliasBody bodies reaches full site
        rwa [program_within, program_withEntries] at ends

theorem reaches_start {p : Program} {settings : ExtractionSettings} (libraries : LibrarySettings)
    (tame : p.Tame manner ages settings) : ∃ k, p.types.size ≤ k ∧
      (start p settings libraries).Reaches manner ages (entryBound p) k := by
  have enough : p.types.size < depthBound p := by
    rw [depthBound]
    omega
  have begins := begins_withEntries (e := { program := p, settings, libraries }) tame enough
    (entryBound p)
  exact reaches_levels (e := Engine.withEntries { program := p, settings, libraries }
    (depthBound p) (entryBound p)) tame begins enough

section Roots

variable (tame : e.program.Tame manner ages e.settings) (reaches : e.Reaches manner ages n k)
  (full : e.program.types.size ≤ k)
include tame reaches full

theorem ends_includeType (type : TypeId) : Ends e.program.names n (e.includeType type) := by
  cases nominal : (e.program.type type).isNominal with
  | true => exact ends_includeType_of_named tame reaches.toBegins (Or.inl nominal)
  | false =>
      exact ends_includeType_of_structural tame reaches (typeFits_of_full tame full type) nominal

theorem ends_includeExportedType (type : TypeId) :
    Ends e.program.names n (e.includeExportedType type) := by
  unfold includeExportedType
  dsimp only
  split
  · exact ends_diagnose _
  · refine ends_bind (ends_inScope _ (ends_includeType tame reaches full type)) fun node => ?_
    split
    · exact ends_pure ()
    · exact ends_set _ _

omit tame reaches full in
theorem ends_declaredName (site : SiteId) : Ends e.program.names n (e.declaredName site) := by
  unfold declaredName
  dsimp only
  split
  · exact ends_pure _
  · exact ends_diagnose _

omit tame reaches full in
theorem ends_entry (name : String) {body : Extract Node} (ends : Ends e.program.names n body) :
    Ends e.program.names n (inScope name do Extract.set name (← body)) :=
  ends_inScope name (ends_bind ends fun node => ends_set name node)

theorem ends_includeExportedAlias {symbol : SymbolId} {site : SiteId}
    (first : e.program.firstDeclaration (some symbol) = some site)
    (aliased : (e.program.symbol symbol).hasFlag .typeAlias = true) :
    Ends e.program.names n (e.includeExportedAlias site) := by
  have kind : (e.program.site site).kind ≠ .mappedType := by
    intro kind
    have stands := ((tame.symbols symbol).first site first).2
    rw [kind] at stands
    simp only [SiteKind.standsFor, Bool.not_eq_true'] at stands
    rw [Symbol.hasFlag, stands] at aliased
    cases aliased
  refine ends_bind (ends_declaredName site) fun name => ?_
  split
  · exact ends_diagnose _
  · rename_i written held
    have isWritten := ((tame.sites site).type kind written held).later
      (Nat.le_trans (tame.site site) full)
    apply ends_entry
    refine ends_bind (ends_reserve name) fun _ => ?_
    refine ends_lift_bind (e.program.shallow_comment _) fun comment _ => ?_
    refine ends_bind (ends_declaredTypeParameters tame reaches full site) fun types => ?_
    have ends := ends_includeAnnotation tame reaches isWritten
    exact ends_bind ends fun child => ends_pure _

theorem ends_includeExportedValue (site : SiteId) :
    Ends e.program.names n (e.includeExportedValue site) := by
  have entry (name : String) (type : Option TypeId) : Ends e.program.names n
      (inScope name do Extract.set name (← e.exportedValue site type)) := by
    apply ends_entry
    refine ends_lift_bind (e.program.shallow_comment _) fun comment _ => ?_
    refine ends_lift_bind (shallow_present type) fun id _ => ?_
    exact ends_bind (ends_includeType tame reaches full id) fun value => ends_pure _
  refine ends_bind (ends_declaredName site) fun name => ?_
  dsimp only
  split
  · exact ends_lift_bind (e.program.shallow_typeWritten _) fun type _ => entry name type
  · exact ends_lift_bind (e.program.shallow_typeAt _) fun type _ => entry name type
  · exact ends_bind (ends_diagnose _) fun type => entry name type

theorem ends_includeExportedFunction (site : Option SiteId) (name : String) :
    Ends e.program.names n (e.includeExportedFunction site name) := by
  refine ends_lift_bind (e.program.shallow_typeAt _) fun found _ => ?_
  refine ends_lift_bind (shallow_present found) fun type _ => ?_
  refine ends_lift_bind (shallow_each _) fun signatures _ => ?_
  split
  · exact ends_diagnose _
  · apply ends_entry
    refine ends_bind (ends_includeSignature tame reaches fun id _ => ?_) fun callable => ?_
    · exact Nat.le_trans (tame.signature id) full
    · refine ends_lift_bind (shallow_present site) fun site _ => ?_
      exact ends_lift_bind (e.program.shallow_comment _) fun comment _ => ends_pure _

theorem ends_includeNamedDefault (symbol : SymbolId) :
    Ends e.program.names n (e.includeNamedDefault symbol) := by
  unfold includeNamedDefault
  dsimp only
  split
  · rename_i aliased
    split
    · exact ends_diagnose _
    · rename_i site first
      exact ends_includeExportedAlias tame reaches full first aliased
  · split
    · split
      · exact ends_diagnose _
      · exact ends_includeExportedFunction tame reaches full _ _
    · split
      · refine ends_lift_bind (e.program.shallow_declaredType _) fun declared _ => ?_
        refine ends_lift_bind (shallow_present declared) fun type _ => ?_
        exact ends_includeExportedType tame reaches full type
      · split
        · exact ends_diagnose _
        · exact ends_includeExportedValue tame reaches full _

theorem ends_includeDefaultExport (site : SiteId) :
    Ends e.program.names n (e.includeDefaultExport site) := by
  have synthetic : Ends e.program.names n syntheticRef :=
    ends_bind (ends_resolve _ _ _) fun ref => ends_pure _
  have value : Ends e.program.names n (e.defaultValue site) := by
    unfold defaultValue
    dsimp only
    split
    · exact ends_bind (ends_includeExportedFunction tame reaches full _ _) fun _ => synthetic
    · split
      · exact ends_diagnose _
      · refine ends_lift_bind (e.program.shallow_typeAt _) fun type _ => ?_
        split
        · refine ends_bind (ends_includeNamedDefault tame reaches full _) fun _ => ?_
          refine ends_lift_bind (shallow_present type) fun id _ => ?_
          exact ends_includeRef (ends_typeArguments tame reaches (typeFits_of_full tame full id)) _ _
        · refine ends_bind (ends_entry _ ?_) fun _ => synthetic
          refine ends_lift_bind (shallow_present type) fun id _ => ?_
          have inline := ends_includeInline tame reaches (typeFits_of_full tame full id) (Or.inl full)
          exact ends_bind inline fun value => ends_pure _
  refine ends_bind value fun node => ?_
  exact ends_lift_bind (e.program.shallow_comment _) fun comment _ => ends_set _ _

theorem ends_includeRoot (symbol : SymbolId) {kind : RootKind}
    (sort : RootKind.of? (e.program.symbol symbol) = some kind) :
    Ends e.program.names n (e.includeRoot symbol kind) := by
  unfold includeRoot
  dsimp only
  split
  · refine ends_lift_bind (e.program.shallow_declaredType _) fun declared _ => ?_
    refine ends_lift_bind (shallow_present declared) fun type _ => ?_
    exact ends_includeExportedType tame reaches full type
  · split
    · exact ends_diagnose _
    · rename_i site first
      cases kind with
      | default => exact ends_includeDefaultExport tame reaches full _
      | named =>
          have aliased := RootKind.flagged_of_of sort
          exact ends_includeExportedAlias tame reaches full first aliased
      | function => exact ends_includeExportedFunction tame reaches full _ _
      | type => exact ends_includeExportedValue tame reaches full _
      | value => exact ends_includeExportedValue tame reaches full _

end Roots

end Engine

namespace Extract

variable {names : List String} {n : Nat} {e : Engine}

theorem ends_attempt {step : Extract Unit} (ends : Ends names n step) :
    Ends names n (attempt e step) := by
  unfold attempt
  split
  · have both (w : Walk) (bound : w.unmet names ≤ n) :
        Shallow (isolated step w).1 ∧ (isolated step w).2.unmet names ≤ n := by
      rcases ran : step w with ⟨fault | value, after⟩
      · obtain ⟨shallow, bound⟩ := ends.after bound ran
        unfold isolated
        rw [ran]
        cases fault with
        | tooDeep => exact absurd rfl shallow
        | diagnostic d => exact ⟨nofun, bound⟩
        | _ => exact ⟨nofun, bound⟩
      · obtain ⟨-, bound⟩ := ends.after bound ran
        unfold isolated
        rw [ran]
        exact ⟨nofun, bound⟩
    exact ⟨fun w bound => (both w bound).1, fun w bound => (both w bound).2⟩
  · exact ends_map _ ends

theorem ends_root (roots : ∀ symbol kind, RootKind.of? (e.program.symbol symbol) = some kind →
      Ends names n (e.includeRoot symbol kind)) (tally : Tally) (exported : Option SymbolId) :
    Ends names n (root e tally exported) := by
  refine ends_lift_bind (shallow_present exported) fun symbol _ => ?_
  dsimp only
  split
  · exact ends_bind (ends_emit _) fun _ => ends_pure _
  · rename_i kind sort
    refine ends_bind (ends_attempt (roots symbol kind sort)) fun failed => ?_
    split
    · exact ends_bind (ends_emit _) fun _ => ends_pure _
    · exact ends_bind (ends_emit _) fun _ => ends_pure _

theorem ends_exportsOf (roots : ∀ symbol kind, RootKind.of? (e.program.symbol symbol) = some kind →
      Ends names n (e.includeRoot symbol kind)) (elapsed : Data) :
    Ends names n (exportsOf e elapsed) := by
  have fold (exports : List (Option SymbolId)) (tally : Tally) :
      Ends names n (exports.foldlM (root e) tally) := by
    induction exports generalizing tally with
    | nil => exact ends_pure tally
    | cons exported rest ih =>
        rw [List.foldlM_cons]
        exact ends_bind (ends_root roots tally exported) fun tally => ih tally
  refine ends_lift_bind (shallow_each _) fun exports _ => ?_
  refine ends_bind (ends_emit _) fun _ => ?_
  refine ends_bind (fold exports {}) fun tally => ?_
  refine ends_bind ends_get fun w => ?_
  dsimp only
  split
  · refine ends_bind (ends_emit _) fun _ => ?_
    split
    · exact ends_bind (ends_diagnose _) fun _ => ends_bind (ends_emit _) fun _ => ends_pure _
    · exact ends_bind (ends_emit _) fun _ => ends_pure _
  · exact ends_bind (ends_emit _) fun _ => ends_pure _

end Extract

open Engine Extract in
/-- An extraction of a tame program does not run out of levels. -/
theorem shallow_extractModule {manner : Manner} {ages : Ages} {p : Program} {settings : Settings}
    (tame : p.Tame manner ages settings.extraction) (bindings : Bindings) (elapsed : Data) :
    Shallow (extractModule p settings bindings elapsed).1 := by
  obtain ⟨k, full, reaches⟩ := reaches_start settings.libraries tame
  have ends := ends_exportsOf (fun symbol kind sort => ends_includeRoot tame reaches full symbol sort)
    elapsed
  apply ends.shallow
  refine Nat.le_trans (Walk.unmet_le _) (Nat.le_trans (Program.length_names_le _) ?_)
  exact Nat.le_add_right _ 8

theorem tame_of_built {p : Program} (built : p.Built Call.Disciplined) {settings : ExtractionSettings}
    (named : p.NominalsNamed settings) (given : p.NominalsGiven) (aliases : p.AliasesFirst) :
    ∃ manner ages, p.Tame manner ages settings := by
  obtain ⟨ages, live⟩ := live_of_built { disciplined := True, nameless := False } built
    fun call p disciplined => ⟨fun _ => disciplined, False.elim⟩
  exact ⟨_, ages, live, trivial, named, given, aliases⟩

/-- Extraction ends, with a result or with a fault of its own, and never for want of levels. -/
theorem extractModule_ends {p : Program} (built : p.Built Call.Disciplined) (settings : Settings)
    (named : p.NominalsNamed settings.extraction) (given : p.NominalsGiven)
    (aliases : p.AliasesFirst) (bindings : Bindings) (elapsed : Data) :
    (extractModule p settings bindings elapsed).1 ≠ .error .tooDeep := by
  obtain ⟨manner, ages, tame⟩ := tame_of_built built named given aliases
  exact shallow_extractModule tame bindings elapsed

def chainCalls : List Call :=
  [.typeParameter "T" none none,
   .interface { header := { name := "List" }, typeParameters := [some ⟨15⟩] },
   .instantiate (some ⟨16⟩) [some ⟨15⟩],
   .union [some ⟨17⟩, some Program.nullType],
   .aliasType { name := "Rest" } (some ⟨18⟩) [some ⟨15⟩],
   .addMembers (some ⟨16⟩) [("rest", .plain (some ⟨18⟩)), ("head", .plain (some ⟨15⟩))]]

def chainProgram : Program := (Program.start "src/index.ts").takes chainCalls

theorem extractModule_ends_chain : chainProgram.Built Call.Disciplined ∧
    chainProgram.NominalsNamed {} ∧ chainProgram.NominalsGiven ∧ chainProgram.AliasesFirst ∧
    (extractModule chainProgram {}).1 ≠ .error .tooDeep := by
  have built : chainProgram.Built Call.Disciplined :=
    Program.built_takes Call.isDisciplined (fun _ _ => Call.disciplined_of_isDisciplined)
      (.start _ _) (by decide +kernel)
  have named : chainProgram.NominalsNamed {} := Program.nominalsNamed_of_forall (by decide +kernel)
  have given : chainProgram.NominalsGiven := Program.nominalsGiven_of_forall (by decide +kernel)
  have aliases : chainProgram.AliasesFirst := Program.aliasesFirst_of_forall (by decide +kernel)
  exact ⟨built, named, given, aliases, extractModule_ends built {} named given aliases [] .null⟩

/-- An interface with a name as the compiler makes them up, mentioned by a parameter of its own
method: the parameter is written out instead of referred to. -/
def mirrorCalls : List Call :=
  [.interface { header := { name := "__Mirror" } },
   .addMembers (some ⟨15⟩)
     [("meet", .method { parameters := [{ name := "other", type := some ⟨15⟩ }],
                         returns := some Program.voidType })]]

def mirrorProgram : Program := (Program.start "src/index.ts").takes mirrorCalls

def mirrorSettings : Settings := { extraction := { anonymousStart := "@@" } }

/-- An alias that takes an object type for a type parameter, and a member of the object type that
leads back to the alias. -/
def boxedCalls : List Call :=
  [.intersection [some Program.stringType],
   .objectLiteral [("inner", .plain (some ⟨15⟩))] [] none none,
   .aliasType { name := "Boxed" } (some ⟨15⟩) [some ⟨16⟩],
   .variableOf { name := "box" } (some ⟨15⟩) none]

def boxedProgram : Program := (Program.start "src/index.ts").takes boxedCalls

/-- A constructor type inside an alias of a module that is only declared for it later. -/
def lateCalls : List Call :=
  [.typeParameter "P" none none,
   .constructorType [] (some Program.stringType) (some ⟨1⟩) none,
   .tuple [some ⟨16⟩],
   .aliasType { name := "Late", fileName := some "mod/late.d.ts" } (some ⟨18⟩) [some ⟨15⟩],
   .variableOf { name := "made" } (some ⟨16⟩) none]

def lateProgram : Program := (Program.start "src/index.ts").takes lateCalls

def lateSettings : Settings := { libraries := { modules := [("mod", ["mod/*"])] } }

def runsOut (p : Program) (settings : Settings) : Bool :=
  match (extractModule p settings).1 with
  | .error .tooDeep => true
  | _ => false

theorem tooDeep_of_runsOut {p : Program} {settings : Settings} (out : runsOut p settings = true) :
    (extractModule p settings).1 = .error .tooDeep := by
  unfold runsOut at out
  split at out
  · assumption
  · cases out

theorem extending_of_takes {calls : List Call}
    (passed : Program.passes Call.isExtending calls (.start "src/index.ts") = true) :
    ((Program.start "src/index.ts").takes calls).Built Call.Extending :=
  Program.built_takes Call.isExtending (fun _ _ => Call.extending_of_isExtending) (.start _ _) passed

theorem extractModule_runs_out :
    (mirrorProgram.Built Call.Extending ∧ mirrorProgram.NominalsNamed mirrorSettings.extraction ∧
      (extractModule mirrorProgram mirrorSettings).1 = .error .tooDeep) ∧
    (boxedProgram.Built Call.Extending ∧ boxedProgram.NominalsNamed {} ∧
      (extractModule boxedProgram {}).1 = .error .tooDeep) ∧
    (lateProgram.Built Call.Extending ∧ lateProgram.NominalsNamed lateSettings.extraction ∧
      (extractModule lateProgram lateSettings).1 = .error .tooDeep) := by
  refine ⟨⟨?_, ?_, ?_⟩, ⟨?_, ?_, ?_⟩, ⟨?_, ?_, ?_⟩⟩
  · exact extending_of_takes (by decide +kernel)
  · exact Program.nominalsNamed_of_forall (by decide +kernel)
  · exact tooDeep_of_runsOut (by decide +kernel)
  · exact extending_of_takes (by decide +kernel)
  · exact Program.nominalsNamed_of_forall (by decide +kernel)
  · exact tooDeep_of_runsOut (by decide +kernel)
  · exact extending_of_takes (by decide +kernel)
  · exact Program.nominalsNamed_of_forall (by decide +kernel)
  · exact tooDeep_of_runsOut (by decide +kernel)

end TypeAtlas
