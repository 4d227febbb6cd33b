import TypeAtlas.Proofs.Extract.Delivering
import TypeAtlas.Proofs.Extract.Ending
import TypeAtlas.Proofs.Extract.Standing

/-!
Every extraction of a program that regular calls build comes to a result, and no root of it fails.
-/

namespace TypeAtlas

/-- Only functions and default exports are exported under the name of the default export. -/
def Program.DefaultsMade (p : Program) : Prop :=
  ∀ symbol ∈ (p.symbol p.moduleSymbol).exports.slots.filterMap id,
    (p.symbol symbol).name = RootKind.defaultName →
      (p.symbol symbol).hasFlag .function = true ∨ (p.symbol symbol).hasFlag .aliasKind = true

instance (p : Program) : Decidable p.DefaultsMade :=
  inferInstanceAs (Decidable (∀ symbol ∈ (p.symbol p.moduleSymbol).exports.slots.filterMap id,
    (p.symbol symbol).name = RootKind.defaultName →
      (p.symbol symbol).hasFlag .function = true ∨ (p.symbol symbol).hasFlag .aliasKind = true))

namespace Engine

open Extract Build Program

variable {e : Engine}

theorem delivering_within (complete : e.program.Complete) (ways : e.Delivering) (depth : Nat) :
    (e.within depth).Delivering := by
  induction depth with
  | zero => exact ways
  | succ depth ih =>
      have inner : (e.within depth).program.Complete := by simpa using complete
      exact
        { visit := fun type => delivers_includeType inner ih type
          visitNamed := fun type name => delivers_includeKnown inner ih type name
          visitInline := fun type => delivers_includeInline inner ih type
          bodyOfType := ways.bodyOfType
          bodyOfAlias := ways.bodyOfAlias }

theorem delivering_withEntries (complete : e.program.Complete) (ways : e.Delivering)
    (depth entries : Nat) : (e.withEntries depth entries).Delivering := by
  induction entries with
  | zero => exact ways
  | succ entries ih =>
      have inner : (e.withEntries depth entries).program.Complete := by simpa using complete
      have levels := delivering_within inner ih depth
      have bodies : ((e.withEntries depth entries).within depth).program.Complete := by
        simpa using complete
      refine { ways with bodyOfType := fun type => ?_, bodyOfAlias := fun site answered => ?_ }
      · exact delivers_includeNamed bodies levels type
      · refine delivers_aliasBody bodies levels ?_
        rwa [program_within, program_withEntries]

theorem delivering_start {p : Program} (complete : p.Complete) (settings : ExtractionSettings)
    (libraries : LibrarySettings) : (start p settings libraries).Delivering := by
  have bare : ({ program := p, settings, libraries } : Engine).Delivering :=
    ⟨fun _ => delivers_tooDeep, fun _ _ => delivers_tooDeep, fun _ => delivers_tooDeep,
      fun _ => delivers_tooDeep, fun _ _ => delivers_tooDeep⟩
  refine delivering_within ?_ (delivering_withEntries complete bare _ _) _
  rwa [program_withEntries]

section Roots

variable (complete : e.program.Complete) (ways : e.Delivering)
include complete ways

omit ways in
theorem delivers_declaredName {symbol : SymbolId} (titled : (e.program.symbol symbol).isTitled = true)
    {site : SiteId} (first : (e.program.symbol symbol).declarations.first? = some site) :
    Delivers (e.declaredName site) := by
  obtain ⟨manner, ages, now, fits⟩ := complete.fits
  have written := (fits.symbols symbol).titled site (.inl ⟨titled, first⟩)
  have nonempty : (e.program.symbol symbol).name.isEmpty = false := by
    simpa [String.isEmpty_iff] using (complete.whole.symbols symbol).titled titled
  unfold declaredName
  simp only [written, Option.filter_some, nonempty]
  exact delivers_pure _

theorem delivers_includeExportedType {symbol : SymbolId}
    (isType : (e.program.symbol symbol).isTypeSymbol = true) : Delivers (do
      e.includeExportedType (← present (← e.program.declaredType (some symbol)))) := by
  obtain ⟨manner, ages, now, fits⟩ := complete.fits
  have declares : (e.program.symbol symbol).declaresType = true := by
    rw [Symbol.declaresType, isType]
    rfl
  refine delivers_told_bind (told_declaredType complete declares) fun type known => ?_
  obtain ⟨id, rfl, answer⟩ := known
  refine delivers_told_bind (told_present (by rintro ⟨⟩)) fun type same => ?_
  cases same
  obtain ⟨⟨own, held, -⟩, -⟩ := (fits.symbols symbol).declares isType id answer
  unfold includeExportedType
  simp only [held]
  refine delivers_bind (delivers_inScope _ (delivers_includeType complete ways id)) fun node => ?_
  split
  · exact delivers_pure ()
  · exact delivers_set _ _

theorem delivers_includeExportedAlias {symbol : SymbolId}
    (aliased : (e.program.symbol symbol).hasFlag .typeAlias = true) :
    ∃ site, (e.program.symbol symbol).declarations.first? = some site ∧
      Delivers (e.includeExportedAlias site) := by
  obtain ⟨site, first, typed, -⟩ := (complete.done (.symbol symbol)).aliased aliased
  obtain ⟨written, held⟩ := Option.ne_none_iff_exists'.mp typed
  have titled : (e.program.symbol symbol).isTitled = true := by rw [Symbol.isTitled, aliased]; rfl
  refine ⟨site, first, delivers_bind (delivers_declaredName complete titled first) fun name => ?_⟩
  simp only [held]
  apply delivers_entry
  refine delivers_bind (delivers_modify _) fun _ => ?_
  refine delivers_comment complete _ fun comment => ?_
  refine delivers_bind (delivers_declaredTypeParameters complete ways site) fun types => ?_
  have answered := (complete.whole.sites site).type written held
  have delivers := delivers_includeAnnotation complete ways answered
  exact delivers_bind delivers fun child => delivers_pure _

theorem delivers_includeExportedValue {symbol : SymbolId}
    (valued : (e.program.symbol symbol).hasFlag .variableKind = true) :
    ∃ site, (e.program.symbol symbol).declarations.first? = some site ∧
      (e.program.symbol symbol).valueDeclaration = some site ∧
        Delivers (e.includeExportedValue site) := by
  obtain ⟨site, first, place, known⟩ := (complete.done (.symbol symbol)).valued valued
  have titled : (e.program.symbol symbol).isTitled = true := by rw [Symbol.isTitled, valued, Bool.or_true]
  have entry (name : String) {type : Option TypeId} (given : type ≠ none) :
      Delivers (inScope name do Extract.set name (← e.exportedValue site type)) := by
    apply delivers_entry
    refine delivers_comment complete _ fun comment => ?_
    refine delivers_told_bind (told_present given) fun id _ => ?_
    exact delivers_bind (delivers_includeType complete ways id) fun value => delivers_pure _
  refine ⟨site, first, place, ?_⟩
  refine delivers_bind (delivers_declaredName complete titled first) fun name => ?_
  dsimp only
  split
  · rename_i written held
    have answered := (complete.whole.sites site).type written held
    exact delivers_told_bind (told_typeWritten complete answered) fun type given => entry name given
  · rename_i expression _ held
    have stands := (complete.whole.sites site).initializer expression held
    have answered := complete.done (.site expression) stands
    exact delivers_told_bind (told_typeAt complete answered) fun type given => entry name given
  · rename_i unwritten uninitialized
    exact absurd known (by simp [unwritten, uninitialized])

theorem delivers_includeExportedFunction {site : SiteId}
    (kind : (e.program.site site).kind = .functionDeclaration) (answered : e.program.Answered site)
    (name : String) : Delivers (e.includeExportedFunction (some site) name) := by
  obtain ⟨manner, ages, now, fits⟩ := complete.fits
  obtain ⟨type, stands⟩ := stands_of_answered complete answered
  have recorded : Told (e.program.typeAt (some site)) (· = some type) := by
    rw [typeAt, recordedType, siteAnswers, stands]
    exact told_ok rfl
  have whole := complete.whole.types type
  obtain ⟨called, -⟩ := (complete.whole.sites site).function kind type stands
  refine delivers_told_bind recorded fun found same => ?_
  subst same
  refine delivers_told_bind (told_present (by rintro ⟨⟩)) fun id same => ?_
  cases same
  refine delivers_told_bind (told_each whole.callSignatures) fun signatures same => ?_
  subst same
  split
  · rename_i none
    exact absurd none called
  · rename_i first rest listed
    have member : first ∈ (e.program.type type).callSignatures.slots := by
      rw [listed]
      exact List.mem_cons_self ..
    obtain ⟨signature, rfl⟩ := exists_of_mem whole.callSignatures.whole member
    have inside := ((fits.types type).calls signature member).1
    apply delivers_entry
    refine delivers_bind (delivers_includeSignature complete ways inside) fun callable => ?_
    refine delivers_told_bind (told_present (by rintro ⟨⟩)) fun site _ => ?_
    exact delivers_comment complete _ fun comment => delivers_pure _

theorem delivers_includeNamedDefault {symbol : SymbolId}
    (nameable : (e.program.symbol symbol).isNameable = true) :
    Delivers (e.includeNamedDefault symbol) := by
  unfold includeNamedDefault
  dsimp only
  split
  · rename_i aliased
    obtain ⟨site, first, delivers⟩ := delivers_includeExportedAlias complete ways aliased
    have declared : e.program.firstDeclaration (some symbol) = some site := first
    rw [declared]
    exact delivers
  · rename_i unaliased
    split
    · rename_i function
      obtain ⟨site, -, place, kind, answered⟩ := (complete.done (.symbol symbol)).called function
      rw [place]
      exact delivers_includeExportedFunction complete ways kind answered _
    · rename_i uncalled
      split
      · rename_i isType
        rw [isTypeSymbol_eq] at isType
        exact delivers_includeExportedType complete ways isType
      · rename_i untyped
        rw [isTypeSymbol_eq] at untyped
        have valued : (e.program.symbol symbol).hasFlag .variableKind = true := by
          simpa [Symbol.isNameable, unaliased, uncalled, untyped] using nameable
        obtain ⟨site, -, place, delivers⟩ := delivers_includeExportedValue complete ways valued
        rw [place]
        exact delivers

theorem delivers_includeDefaultExport {symbol : SymbolId}
    (made : (e.program.symbol symbol).hasFlag .function = true ∨
      (e.program.symbol symbol).hasFlag .aliasKind = true) :
    ∃ site, (e.program.symbol symbol).declarations.first? = some site ∧
      Delivers (e.includeDefaultExport site) := by
  have synthetic : Delivers syntheticRef :=
    delivers_bind (delivers_resolve _ _ _) fun ref => delivers_pure _
  have root {site : SiteId} (value : Delivers (e.defaultValue site)) :
      Delivers (e.includeDefaultExport site) := by
    refine delivers_bind value fun node => ?_
    exact delivers_comment complete _ fun comment => delivers_set _ _
  rcases made with function | exported
  · obtain ⟨site, first, -, kind, answered⟩ := (complete.done (.symbol symbol)).called function
    refine ⟨site, first, root ?_⟩
    unfold defaultValue
    dsimp only
    rw [if_pos kind]
    refine delivers_bind ?_ fun _ => synthetic
    exact delivers_includeExportedFunction complete ways kind answered _
  · obtain ⟨site, first, kind, given⟩ := (complete.done (.symbol symbol)).exported exported
    obtain ⟨expression, held⟩ := Option.ne_none_iff_exists'.mp given
    have stands := (complete.whole.sites site).expression kind expression held
    have answered := complete.done (.site expression) stands
    refine ⟨site, first, root ?_⟩
    unfold defaultValue
    simp only [kind, held]
    rw [if_neg (by decide)]
    refine delivers_told_bind (told_typeAt complete answered) fun type given => ?_
    split
    · rename_i named found
      have kind : (e.program.site expression).kind.isExpression = true := by
        simp only [Site.isExpression, Bool.or_eq_true, Bool.and_eq_true, beq_iff_eq] at stands
        rcases stands with kind | ⟨kind, -⟩ <;> rw [kind] <;> rfl
      have nameable := (complete.whole.sites expression).named kind named found
      refine delivers_bind (delivers_includeNamedDefault complete ways nameable) fun _ => ?_
      refine delivers_told_bind (told_present given) fun id _ => ?_
      exact delivers_includeRef complete ways id _ none
    · refine delivers_bind (delivers_entry _ ?_) fun _ => synthetic
      refine delivers_told_bind (told_present given) fun id _ => ?_
      exact delivers_bind (delivers_includeInline complete ways id) fun value => delivers_pure _

theorem delivers_includeRoot {symbol : SymbolId} {kind : RootKind}
    (sort : RootKind.of? (e.program.symbol symbol) = some kind)
    (made : (e.program.symbol symbol).name = RootKind.defaultName →
      (e.program.symbol symbol).hasFlag .function = true ∨
        (e.program.symbol symbol).hasFlag .aliasKind = true) :
    Delivers (e.includeRoot symbol kind) := by
  have flagged := RootKind.flagged_of_of sort
  cases kind with
  | default =>
      obtain ⟨site, first, delivers⟩ := delivers_includeDefaultExport complete ways (made flagged)
      unfold includeRoot
      simp only [first]
      exact delivers
  | named =>
      obtain ⟨site, first, delivers⟩ := delivers_includeExportedAlias complete ways flagged
      unfold includeRoot
      simp only [first]
      exact delivers
  | function =>
      obtain ⟨site, first, place, kind, answered⟩ := (complete.done (.symbol symbol)).called flagged
      unfold includeRoot
      simp only [first, place]
      exact delivers_includeExportedFunction complete ways kind answered _
  | type => exact delivers_includeExportedType complete ways ((isTypeSymbol_eq _).symm.trans flagged)
  | value =>
      obtain ⟨site, first, place, delivers⟩ := delivers_includeExportedValue complete ways flagged
      unfold includeRoot
      simp only [first, place]
      exact delivers

end Roots

end Engine

namespace Extract

variable {e : Engine}

theorem attempt_of_delivers {step : Extract Unit} (delivers : Delivers step) :
    attempt e step = (fun _ => none) <$> step := by
  have alone : isolated step = (fun _ => none) <$> step := by
    funext w
    rw [map_eq]
    rcases ran : step w with ⟨fault | _, after⟩
    · rw [bind_error ran]
      obtain rfl := delivers w fault after ran
      simp only [isolated, ran]
    · rw [bind_ok ran]
      simp only [isolated, ran]
      rfl
  unfold attempt
  split
  · exact alone
  · rfl

theorem delivers_root {symbol : SymbolId}
    (roots : ∀ kind, RootKind.of? (e.program.symbol symbol) = some kind →
      Delivers (e.includeRoot symbol kind)) (tally : Tally) :
    Delivers (root e tally (some symbol)) ∧ ∀ w counted after,
      root e tally (some symbol) w = (.ok counted, after) → counted.failures = tally.failures := by
  unfold root
  rw [show (liftM (present (some symbol)) : Extract SymbolId) = pure symbol from rfl, pure_bind]
  cases sort : RootKind.of? (e.program.symbol symbol) with
  | none =>
      simp only [sort]
      refine ⟨delivers_bind (delivers_emit _) fun _ => delivers_pure _, fun w counted after ran => ?_⟩
      cases ran
      rfl
  | some kind =>
      have delivers := roots kind sort
      simp only [sort, attempt_of_delivers delivers, map_eq, bind_assoc, pure_bind]
      refine ⟨delivers_bind delivers fun _ => delivers_bind (delivers_emit _) fun _ => delivers_pure _, ?_⟩
      intro w counted after ran
      obtain ⟨_, between, -, ran⟩ := of_bind_ok ran
      cases ran
      rfl

theorem delivers_exportsOf (full : (e.program.symbol e.program.moduleSymbol).exports.Full)
    (lenient : e.settings.strictRefs = false)
    (roots : ∀ symbol, some symbol ∈ (e.program.symbol e.program.moduleSymbol).exports.slots →
      ∀ kind, RootKind.of? (e.program.symbol symbol) = some kind → Delivers (e.includeRoot symbol kind))
    (elapsed : Data) :
    Delivers (exportsOf e elapsed) ∧ ∀ w x after,
      exportsOf e elapsed w = (.ok x, after) → x.failures = [] := by
  have fold (exports : List (Option SymbolId))
      (listed : ∀ slot ∈ exports, slot ∈ (e.program.symbol e.program.moduleSymbol).exports.slots)
      (tally : Tally) : Delivers (exports.foldlM (root e) tally) ∧ ∀ w counted after,
        exports.foldlM (root e) tally w = (.ok counted, after) → counted.failures = tally.failures := by
    induction exports generalizing tally with
    | nil =>
        refine ⟨delivers_pure tally, fun w counted after ran => ?_⟩
        cases ran
        rfl
    | cons slot rest ih =>
        have ih := ih fun later member => listed later (List.mem_cons_of_mem _ member)
        have here := listed slot (List.mem_cons_self ..)
        obtain ⟨symbol, rfl⟩ := exists_of_mem full.whole here
        obtain ⟨delivers, kept⟩ := delivers_root (roots symbol here) tally
        rw [List.foldlM_cons]
        refine ⟨delivers_bind delivers fun counted => (ih counted).1, fun w counted after ran => ?_⟩
        obtain ⟨first, between, begun, ran⟩ := of_bind_ok ran
        exact ((ih first).2 between counted after ran).trans (kept w first between begun)
  obtain ⟨delivers, kept⟩ := fold _ (fun _ member => member) {}
  have asked : (liftM (e.program.symbol e.program.moduleSymbol).exports.each : Extract _) =
      pure (e.program.symbol e.program.moduleSymbol).exports.slots := by
    rw [full.each]
    rfl
  unfold exportsOf
  simp only [asked, pure_bind, lenient, Bool.false_eq_true, if_false]
  constructor
  · refine delivers_bind (delivers_emit _) fun _ => ?_
    refine delivers_bind delivers fun tally => ?_
    refine delivers_bind delivers_get fun w => ?_
    split
    · refine delivers_bind (delivers_emit _) fun _ => ?_
      exact delivers_bind (delivers_emit _) fun _ => delivers_pure _
    · exact delivers_bind (delivers_emit _) fun _ => delivers_pure _
  · intro w x after ran
    obtain ⟨_, started, -, ran⟩ := of_bind_ok ran
    obtain ⟨tally, rooted, counted, ran⟩ := of_bind_ok ran
    have none := kept started tally rooted counted
    obtain ⟨_, _, -, ran⟩ := of_bind_ok ran
    split at ran <;>
    · cases ran
      exact none

end Extract

open Engine Extract in
/-- Whatever regular calls build is extracted: each root succeeds, every question on the way has an
answer, and the walk does not run out of levels. -/
theorem extractModule_completes {p : Program}
    (built : p.Built fun call p => call.Regular p ∧ call.Disciplined p) (settings : Settings)
    (named : p.NominalsNamed settings.extraction) (given : p.NominalsGiven) (aliases : p.AliasesFirst)
    (defaults : p.DefaultsMade) (lenient : settings.extraction.strictRefs = false)
    (bindings : Bindings) (elapsed : Data) :
    ∃ x after, extractModule p settings bindings elapsed = (.ok x, after) ∧ x.failures = [] := by
  have complete := complete_of_built built
  have disciplined := built.weaken fun _ _ allowed => allowed.2
  obtain ⟨manner, ages, tame⟩ := tame_of_built disciplined named given aliases
  have shallow := shallow_extractModule tame bindings elapsed
  have program : (start p settings.extraction settings.libraries).program = p := by simp [start]
  have kept : (start p settings.extraction settings.libraries).settings = settings.extraction := by
    simp [start]
  have ways := delivering_start complete settings.extraction settings.libraries
  obtain ⟨delivers, failures⟩ := delivers_exportsOf
    (e := start p settings.extraction settings.libraries)
    (by rw [program]; exact (complete.whole.symbols _).exports) (by rw [kept, lenient])
    (fun symbol member kind sort => delivers_includeRoot (by rwa [program]) ways sort
      (by
        rw [program] at member ⊢
        exact defaults symbol (List.mem_filterMap.mpr ⟨_, member, rfl⟩))) elapsed
  rcases ran : extractModule p settings bindings elapsed with ⟨fault | x, after⟩
  · rw [ran] at shallow
    cases delivers _ _ _ ran
    exact absurd rfl shallow
  · exact ⟨x, after, rfl, failures _ _ _ ran⟩

/-- A generic crate with a method, a chest that is one, sizes, an alias of crates, a function, and a
variable and the default export that are told by their types. -/
def crateCalls : List Call :=
  [.typeParameter "T" none (some Program.stringType),
   .interface { header := { name := "Crate" }, typeParameters := [some ⟨15⟩] },
   .instantiate (some ⟨16⟩) [some ⟨15⟩],
   .addMembers (some ⟨16⟩)
     [("next", .plain (some ⟨17⟩)),
      ("pack", .method { parameters := [{ name := "item", type := some ⟨15⟩ }],
                         returns := some Program.voidType })],
   .instantiate (some ⟨16⟩) [some Program.numberType],
   .classType { header := { name := "Chest" }, implemented := [some ⟨18⟩],
                statics := [("count", .plain (some Program.numberType))],
                constructors := [[{ name := "size", type := some Program.numberType }]] },
   .union [some ⟨18⟩, some ⟨19⟩],
   .aliasType { name := "Crates" } (some ⟨21⟩) [],
   .function { name := "open" } { parameters := [{ name := "crate", type := some ⟨21⟩ }],
                                  returns := some ⟨19⟩ },
   .variableOf { name := "first" } none (some ⟨18⟩),
   .defaultExport (.type (some ⟨21⟩)) none]

def crateProgram : Program := (Program.start "src/index.ts").takes crateCalls

theorem extractModule_completes_crates :
    (crateProgram.Built fun call p => call.Regular p ∧ call.Disciplined p) ∧
    crateProgram.NominalsNamed {} ∧ crateProgram.NominalsGiven ∧ crateProgram.AliasesFirst ∧
    crateProgram.DefaultsMade ∧
    ∃ x after, extractModule crateProgram {} = (.ok x, after) ∧ x.failures = [] := by
  have built : crateProgram.Built fun call p => call.Regular p ∧ call.Disciplined p :=
    Program.built_takes (fun call p => call.isRegular p && call.isDisciplined p)
      (fun _ _ checked => by
        rw [Bool.and_eq_true] at checked
        exact ⟨Call.regular_of_isRegular checked.1, Call.disciplined_of_isDisciplined checked.2⟩)
      (.start _ _) (by decide +kernel)
  have named : crateProgram.NominalsNamed {} := Program.nominalsNamed_of_forall (by decide +kernel)
  have given : crateProgram.NominalsGiven := Program.nominalsGiven_of_forall (by decide +kernel)
  have aliases : crateProgram.AliasesFirst := Program.aliasesFirst_of_forall (by decide +kernel)
  have defaults : crateProgram.DefaultsMade := by decide +kernel
  exact ⟨built, named, given, aliases, defaults,
    extractModule_completes built {} named given aliases defaults rfl [] .null⟩

/-- Regular calls may use a name as the compiler makes them up, give an object type as a type parameter,
or declare an alias only after what is written inside it; the walk does not come to a result then. -/
theorem extractModule_stops_short :
    ((mirrorProgram.Built fun call p => call.Regular p ∧ call.Extending p) ∧
      mirrorProgram.NominalsNamed mirrorSettings.extraction ∧ mirrorProgram.DefaultsMade ∧
      mirrorSettings.extraction.strictRefs = false ∧
      ∀ x after, extractModule mirrorProgram mirrorSettings ≠ (.ok x, after)) ∧
    ((boxedProgram.Built fun call p => call.Regular p ∧ call.Extending p) ∧
      boxedProgram.NominalsNamed {} ∧ boxedProgram.NominalsGiven ∧ boxedProgram.DefaultsMade ∧
      ∀ x after, extractModule boxedProgram {} ≠ (.ok x, after)) ∧
    ((lateProgram.Built fun call p => call.Regular p ∧ call.Extending p) ∧
      lateProgram.NominalsNamed lateSettings.extraction ∧ lateProgram.NominalsGiven ∧
      lateProgram.DefaultsMade ∧ lateSettings.extraction.strictRefs = false ∧
      ∀ x after, extractModule lateProgram lateSettings ≠ (.ok x, after)) := by
  have built {calls : List Call} (passed : Program.passes (fun call p => call.isRegular p &&
      call.isExtending p) calls (.start "src/index.ts") = true) :
      ((Program.start "src/index.ts").takes calls).Built fun call p =>
        call.Regular p ∧ call.Extending p :=
    Program.built_takes (fun call p => call.isRegular p && call.isExtending p)
      (fun _ _ checked => by
        rw [Bool.and_eq_true] at checked
        exact ⟨Call.regular_of_isRegular checked.1, Call.extending_of_isExtending checked.2⟩)
      (.start _ _) passed
  have short {p : Program} {settings : Settings} (out : runsOut p settings = true) (x : Extraction)
      (after : Walk) : extractModule p settings ≠ (.ok x, after) := by
    intro ran
    have deep := tooDeep_of_runsOut out
    rw [ran] at deep
    cases deep
  refine ⟨⟨?_, ?_, ?_, rfl, ?_⟩, ⟨?_, ?_, ?_, ?_, ?_⟩, ⟨?_, ?_, ?_, ?_, rfl, ?_⟩⟩
  · exact built (by decide +kernel)
  · exact Program.nominalsNamed_of_forall (by decide +kernel)
  · decide +kernel
  · exact short (by decide +kernel)
  · exact built (by decide +kernel)
  · exact Program.nominalsNamed_of_forall (by decide +kernel)
  · exact Program.nominalsGiven_of_forall (by decide +kernel)
  · decide +kernel
  · exact short (by decide +kernel)
  · exact built (by decide +kernel)
  · exact Program.nominalsNamed_of_forall (by decide +kernel)
  · exact Program.nominalsGiven_of_forall (by decide +kernel)
  · decide +kernel
  · exact short (by decide +kernel)

end TypeAtlas
