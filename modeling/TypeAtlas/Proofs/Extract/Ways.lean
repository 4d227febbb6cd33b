import TypeAtlas.Extract.Run
import TypeAtlas.Proofs.Walk.Orderly

/-!
Ways through the extractor. What sequences of steps keep, and the steps that go on to another type
keep, all steps of the extractor keep, however they put those together.
-/

namespace TypeAtlas

theorem Terminal.flagged_of_ofFlags {flags : TypeFlags} {terminal : Terminal}
    (found : ofFlags? flags = some terminal) :
    ∃ rule ∈ rules, rule.2 = terminal ∧ ∀ flag ∈ rule.1, flags.contains flag = true := by
  obtain ⟨rule, first, same⟩ := Option.map_eq_some_iff.mp found
  have applies := List.find?_some first
  rw [List.all_eq_true] at applies
  exact ⟨rule, List.mem_of_find?_eq_some first, same, applies⟩

theorem RootKind.flagged_of_of {symbol : Symbol} {kind : RootKind} (suited : of? symbol = some kind) :
    match kind with
    | .default => symbol.name = defaultName
    | .named => symbol.hasFlag .typeAlias = true
    | .function => symbol.hasFlag .function = true
    | .type => isTypeSymbol symbol = true
    | .value => symbol.hasFlag .variableKind = true := by
  unfold of? at suited
  split at suited
  · rename_i named
    cases suited
    simpa using named
  · split at suited
    · rename_i flagged
      cases suited
      exact flagged
    · split at suited
      · rename_i flagged
        cases suited
        exact flagged
      · split at suited
        · rename_i flagged
          cases suited
          exact flagged
        · split at suited
          · rename_i flagged
            cases suited
            exact flagged
          · cases suited

namespace Extract

/-- A property of steps that sequences keep and questions have. -/
structure Sequences (Q : ∀ {α : Type}, Extract α → Prop) : Prop where
  bind_of {α β : Type} {step : Extract α} {next : α → Extract β} (first : Q step)
    (rest : ∀ w value after, step w = (.ok value, after) → Q (next value)) : Q (step >>= next)
  lift {α : Type} (result : Except Fault α) : Q (liftM result : Extract α)

/-- A property of sequences that steps have which report something, count something or declare a name.
What is read off a walk is its registry. -/
structure Threads (Q : ∀ {α : Type}, Extract α → Prop) : Prop extends Sequences Q where
  reading {α : Type} {next : Walk → Extract α}
    (blind : ∀ w other, w.registry = other.registry → next w = next other)
    (each : ∀ w, Q (next w)) : Q (get >>= next)
  emit (event : Event) : Q (emit event)
  declareLocal (name : String) : Q (declareLocal name)
  count : Q (modify fun w => { w with unidentified := w.unidentified + 1 } : Extract Unit)

structure Composes (Q : ∀ {α : Type}, Extract α → Prop) : Prop extends Threads Q where
  same {α : Type} {step : Extract α} (same : ∀ w, (step w).2 = w) : Q step
  lift _ := same fun _ => rfl
  reading _ each := bind_of (same fun _ => rfl) fun _ value _ _ => each value

namespace Sequences

variable {Q : ∀ {α : Type}, Extract α → Prop} (sequences : Sequences Q) {α β : Type}
include sequences

theorem bind {step : Extract α} {next : α → Extract β} (first : Q step)
    (rest : ∀ value, Q (next value)) : Q (step >>= next) :=
  sequences.bind_of first fun _ value _ _ => rest value

theorem pure (value : α) : Q (Pure.pure value : Extract α) := sequences.lift (.ok value)

theorem fail (fault : Fault) : Q (fail fault : Extract α) := sequences.lift (.error fault)

theorem diagnose (d : Diagnostic) : Q (diagnose d : Extract α) :=
  sequences.lift (.error (.diagnostic d))

theorem map {step : Extract α} (f : α → β) (holds : Q step) : Q (f <$> step) := by
  rw [map_eq]
  exact sequences.bind holds fun value => sequences.pure (f value)

theorem mapM_of {f : α → Extract β} {items : List α} (each : ∀ item ∈ items, Q (f item)) :
    Q (items.mapM f) := by
  induction items with
  | nil => exact sequences.pure []
  | cons item rest ih =>
      rw [List.mapM_cons]
      refine sequences.bind (each item (List.mem_cons_self ..)) fun value => ?_
      refine sequences.bind (ih fun later member => each later (List.mem_cons_of_mem _ member)) ?_
      exact fun values => sequences.pure (value :: values)

theorem mapM {f : α → Extract β} {items : List α} (each : ∀ item, Q (f item)) : Q (items.mapM f) :=
  sequences.mapM_of fun item _ => each item

end Sequences

theorem walk_isolated (step : Extract Unit) (w : Walk) : (isolated step w).2 = (step w).2 := by
  unfold isolated
  rcases step w with ⟨fault | _, after⟩
  · cases fault <;> rfl
  · rfl

/-- A property that only looks at the walk, roots have one after the other if each of them has it. -/
theorem Threads.roots {Q : ∀ {α : Type}, Extract α → Prop} (threads : Threads Q)
    (isolates : ∀ {step : Extract Unit}, Q step → Q (isolated step)) {e : Engine}
    {exports : List (Option SymbolId)}
    (each : ∀ symbol, some symbol ∈ exports → ∀ kind,
      RootKind.of? (e.program.symbol symbol) = some kind → Q (e.includeRoot symbol kind))
    (tally : Tally) : Q (exports.foldlM (root e) tally) := by
  have told (event : Event) (tally : Tally) : Q (do Extract.emit event; Pure.pure tally : Extract Tally) :=
    threads.bind (threads.emit event) fun _ => threads.pure tally
  have attempted {step : Extract Unit} (holds : Q step) : Q (attempt e step) := by
    unfold attempt
    split
    · exact isolates holds
    · exact threads.map _ holds
  induction exports generalizing tally with
  | nil => exact threads.pure tally
  | cons exported rest ih =>
      rw [List.foldlM_cons]
      refine threads.bind ?_ fun tally =>
        ih (fun symbol member => each symbol (List.mem_cons_of_mem _ member)) tally
      refine threads.bind_of (threads.lift _) fun _ symbol _ asked => ?_
      rw [lift_apply, Prod.mk.injEq] at asked
      obtain rfl := of_present asked.1
      dsimp only
      split
      · exact told _ _
      · rename_i kind suited
        refine threads.bind (attempted (each symbol (List.mem_cons_self ..) kind suited)) fun failed => ?_
        split
        · exact told _ _
        · exact told _ _

end Extract

namespace Engine

open Extract

/-- The ways on from a type have a property that sequences keep. A type that is written by a name goes
on by that name. -/
structure Visits (e : Engine) (Q : ∀ {α : Type}, Extract α → Prop) : Prop extends Threads Q where
  visit : ∀ type, Q (e.visit type)
  visitInline : ∀ type, Q (e.visitInline type)
  visitNamed : ∀ site type, e.program.isReferenceSite site = true →
    e.program.typeAt site = .ok (some type) →
    Q (e.visitNamed type (site.bind fun id => (e.program.site id).name))

structure Ways (e : Engine) (Q : ∀ {α : Type}, Extract α → Prop) : Prop extends Visits e Q where
  reference : ∀ type, (e.program.type type).isReference = true → Q (e.includeReference type)
  base : ∀ declaration, ∀ clause ∈ (e.program.site declaration).heritage, ∀ site ∈ clause.types,
    Q (e.includeBase site)

variable {e : Engine} {Q : ∀ {α : Type}, Extract α → Prop}

theorem Ways.imp {R : ∀ {α : Type}, Extract α → Prop} (ways : e.Ways Q) (composes : Composes R)
    (imp : ∀ {α : Type} {step : Extract α}, Q step → R step) : e.Ways R :=
  { composes with
    visit := fun type => imp (ways.visit type)
    visitInline := fun type => imp (ways.visitInline type)
    visitNamed := fun site type reference denoted => imp (ways.visitNamed site type reference denoted)
    reference := fun type isReference => imp (ways.reference type isReference)
    base := fun declaration clause held site listed => imp (ways.base declaration clause held site listed) }

namespace Visits

variable (ways : e.Visits Q)
include ways

theorem visitPresent (type : Option TypeId) : Q (e.visitPresent type) :=
  ways.bind (ways.lift _) ways.visit

theorem visitAll (types : List (Option TypeId)) : Q (e.visitAll types) := ways.mapM ways.visitPresent

omit ways in
theorem normalizeArguments (threads : Threads Q) (type : TypeId) (params : Slots SiteId)
    (types : List Node) (name : String) : Q (e.normalizeArguments type params types name) := by
  refine threads.reading (fun w other same => by simp only [same]) fun _ => ?_
  refine threads.bind (threads.lift _) fun _ => ?_
  exact threads.bind (threads.lift _) fun _ => threads.lift _

theorem typeParameterRef (name : String) : Q (typeParameterRef name) :=
  ways.bind (ways.declareLocal name) fun _ => ways.pure _

theorem includeHidden (type : TypeId) : Q (e.includeHidden type) := by
  unfold Engine.includeHidden
  dsimp only
  split
  · exact ways.pure none
  · split
    · exact ways.pure none
    · split
      · exact ways.pure none
      · refine ways.bind (ways.emit _) fun _ => ?_
        refine ways.bind (ways.lift _) fun declared => ?_
        exact ways.map _ (ways.visitPresent declared)

theorem includeMember (type : Option TypeId) : Q (e.includeMember type) := by
  refine ways.bind (ways.lift _) fun type => ?_
  refine ways.bind (ways.visitInline type) fun value => ?_
  exact ways.bind (ways.lift _) fun comment => ways.pure _

theorem includeTerminal (info : TypeInfo) (terminal : Terminal) :
    Q (e.includeTerminal info terminal) := by
  have members (types : List (Option TypeId)) : Q (types.mapM e.includeMember) :=
    ways.mapM ways.includeMember
  cases terminal with
  | primitive kind => exact ways.pure _
  | literal =>
      unfold Engine.includeTerminal
      cases info.value with
      | none => exact ways.fail _
      | some value => exact ways.pure _
  | truth => exact ways.pure _
  | enumLiteral =>
      refine ways.bind (ways.lift _) fun comment => ?_
      refine ways.bind (ways.lift _) fun types => ?_
      exact ways.bind (members types) fun values => ways.pure _
  | enumeration =>
      refine ways.bind (ways.lift _) fun comment => ?_
      refine ways.bind (ways.lift _) fun types => ?_
      exact ways.bind (members types) fun values => ways.pure _
  | bigintLiteral => exact ways.pure _
  | conditional =>
      refine ways.bind (ways.visitPresent _) fun extended => ?_
      refine ways.bind (ways.visitPresent _) fun check => ?_
      refine ways.bind (ways.visitPresent _) fun primary => ?_
      exact ways.bind (ways.visitPresent _) fun alternate => ways.pure _
  | substitution => exact ways.bind (ways.visitPresent _) fun base => ways.pure _
  | nonPrimitive => exact ways.pure _

theorem includeBasic (type : TypeId) : Q (e.includeBasic type) := by
  unfold Engine.includeBasic
  dsimp only
  split
  · exact ways.map _ (ways.includeTerminal _ _)
  · exact ways.pure none

theorem keyofNode (operand : Option TypeId) : Q (e.keyofNode operand) :=
  ways.bind (ways.visitPresent operand) fun _ => ways.pure _

theorem unionNode (types : List (Option TypeId)) : Q (e.unionNode types) :=
  ways.bind (ways.visitAll types) fun _ => ways.pure _

theorem includeIndex (type : Option TypeId) : Q (e.includeIndex type) := by
  unfold Engine.includeIndex
  split
  · exact ways.pure none
  · split
    · exact ways.map _ (ways.keyofNode _)
    · exact ways.map _ (ways.visit _)

theorem includeWritten (site : Option SiteId) :
    Q (e.includeWritten site) := by
  unfold Engine.includeWritten
  dsimp only
  split
  · exact ways.pure none
  · split
    · refine ways.bind (ways.lift _) fun operand => ?_
      exact ways.map _ (ways.keyofNode operand)
    · split
      · refine ways.bind (ways.lift _) fun parts => ?_
        refine ways.bind (ways.mapM fun part => ways.lift _) fun types => ?_
        exact ways.map _ (ways.unionNode types)
      · exact ways.pure none

theorem includeWrittenOrInline (site : Option SiteId) :
    Q (e.includeWrittenOrInline site) := by
  refine ways.bind (ways.includeWritten site) fun written => ?_
  cases written with
  | some node => exact ways.pure node
  | none =>
      refine ways.bind (ways.lift _) fun type => ?_
      exact ways.bind (ways.lift _) fun type => ways.visitInline type

theorem includeConstraint (type : TypeId) :
    Q (e.includeConstraint type) := by
  unfold Engine.includeConstraint
  dsimp only
  split
  · split
    · refine ways.bind (ways.lift _) fun operand => ?_
      exact ways.map _ (ways.keyofNode operand)
    · refine ways.bind (ways.lift _) fun bound => ?_
      exact ways.map _ (ways.visitPresent bound)
  · split
    · exact ways.map _ (ways.visit _)
    · exact ways.pure none

theorem includeDefault (type : TypeId) : Q (e.includeDefault type) := by
  unfold Engine.includeDefault
  dsimp only
  split
  · refine ways.bind (ways.lift _) fun fallback => ?_
    exact ways.map _ (ways.visitPresent fallback)
  · exact ways.pure none

theorem includeTypeParameter (type : TypeId) :
    Q (e.includeTypeParameter type) := by
  unfold Engine.includeTypeParameter
  split
  · exact ways.pure none
  · refine ways.bind (ways.typeParameterRef _) fun parameter => ?_
    refine ways.bind (ways.includeConstraint type) fun constraint => ?_
    exact ways.bind (ways.includeDefault type) fun default => ways.pure _

theorem includeTypeParameters (params : Slots TypeId) :
    Q (e.includeTypeParameters params) := by
  refine ways.bind (ways.mapM fun param => ?_) fun _ => ways.pure _
  exact ways.bind (ways.lift _) fun type => ways.includeTypeParameter type

theorem declaredTypeParameters (site : SiteId) :
    Q (e.declaredTypeParameters site) := by
  refine ways.bind (ways.lift _) fun written => ?_
  refine ways.bind (ways.mapM fun param => ways.lift _) fun params => ?_
  exact ways.includeTypeParameters _

theorem includeAnnotation (site : Option SiteId) :
    Q (e.includeAnnotation site) := by
  unfold Engine.includeAnnotation
  dsimp only
  split
  · rename_i reference
    refine ways.bind_of (ways.lift _) fun _ type _ asked => ?_
    refine ways.bind_of (ways.lift _) fun _ id _ found => ?_
    rw [lift_apply, Prod.mk.injEq] at asked found
    obtain rfl := of_present found.1
    exact ways.visitNamed site id reference asked.1
  · split
    · split
      · exact ways.diagnose _
      · refine ways.bind (ways.lift _) fun type => ?_
        exact ways.bind (ways.visitPresent type) fun _ => ways.pure _
    · exact ways.includeWrittenOrInline site

theorem includeParameter (param : Option SymbolId) :
    Q (e.includeParameter param) := by
  refine ways.bind (ways.lift _) fun param => ?_
  dsimp only
  split
  · exact ways.diagnose _
  · split
    · exact ways.diagnose _
    · rename_i site _ _ written _
      have value := ways.includeAnnotation (some written)
      exact ways.bind value fun _ => ways.lift _

theorem includeSignature (signature : Option SignatureId) :
    Q (e.includeSignature signature) := by
  refine ways.bind (ways.lift _) fun id => ?_
  refine ways.bind (ways.includeTypeParameters _) fun types => ?_
  refine ways.bind (ways.lift _) fun params => ?_
  refine ways.bind (ways.mapM ways.includeParameter) fun parameters => ?_
  exact ways.bind (ways.visitPresent _) fun returns => ways.pure _

theorem includeConstructors (type : TypeId) :
    Q (e.includeConstructors type) := by
  refine ways.bind (ways.lift _) fun sites => ways.mapM fun site => ?_
  refine ways.bind (ways.lift _) fun signature => ?_
  exact ways.bind (ways.includeSignature signature) fun _ => ways.pure _

theorem includePropValue (prop : SymbolId) :
    Q (e.includePropValue prop) := by
  unfold Engine.includePropValue
  dsimp only
  split
  · exact ways.diagnose _
  · split
    · refine ways.bind (ways.lift _) fun signature => ?_
      exact ways.bind (ways.includeSignature signature) fun _ => ways.pure _
    · refine ways.bind (ways.includeWritten _) fun written => ?_
      split
      · exact ways.pure _
      · exact ways.bind (ways.lift _) fun type => ways.visitPresent type

theorem includeProp (prop : SymbolId) : Q (e.includeProp prop) := by
  refine ways.bind (ways.lift _) fun modifiers => ?_
  refine ways.bind (ways.lift _) fun comment => ?_
  exact ways.bind (ways.includePropValue prop) fun value => ways.pure _

theorem includeOwnIndex (type : TypeId) (edges : List Node) (kind : IndexKind) :
    Q (e.includeOwnIndex type edges kind) := by
  unfold Engine.includeOwnIndex
  split
  · exact ways.pure _
  · split
    · exact ways.pure _
    · refine ways.bind ?_ fun member => ways.pure [member]
      refine ways.bind (ways.lift _) fun name => ?_
      exact ways.bind (ways.visit _) fun value => ways.pure _

theorem includeOwn (inherited : List Int) (prop : Option SymbolId) :
    Q (e.includeOwn inherited prop) := by
  refine ways.bind (ways.lift _) fun prop => ?_
  split
  · exact ways.pure _
  · exact ways.bind (ways.includeProp prop) fun member => ways.pure [member]

theorem includeStatic (member : Option SymbolId) :
    Q (e.includeStatic member) := by
  refine ways.bind (ways.lift _) fun member => ?_
  split
  · exact ways.bind (ways.includeProp _) fun node => ways.pure [node]
  · exact ways.pure _

theorem includeShape (type : TypeId) (heritage : Heritage) :
    Q (e.includeShape type heritage) := by
  refine ways.reading (fun w other same => by simp only [same]) fun _ => ?_
  refine ways.bind (ways.lift _) fun inherited => ?_
  refine ways.bind (ways.lift _) fun properties => ?_
  refine ways.bind (ways.mapM (ways.includeOwn inherited)) fun props => ?_
  refine ways.bind (ways.includeOwnIndex _ _ _) fun numberIndex => ?_
  refine ways.bind (ways.includeOwnIndex _ _ _) fun stringIndex => ?_
  refine ways.bind (ways.lift _) fun signatures => ?_
  refine ways.bind (ways.mapM fun signature => ?_) fun calls => ?_
  · exact ways.bind (ways.includeSignature signature) fun _ => ways.pure _
  · refine ways.bind (ways.lift _) fun comment => ?_
    exact ways.bind (ways.includeTypeParameters _) fun types => ways.pure _

theorem includeMapped (type : TypeId) : Q (e.includeMapped type) := by
  unfold Engine.includeMapped
  dsimp only
  split
  · split
    · refine ways.bind (ways.declareLocal _) fun _ => ?_
      refine ways.bind (ways.lift _) fun value => ?_
      refine ways.bind (ways.lift _) fun comment => ?_
      refine ways.bind (ways.includeConstraint _) fun constraint => ?_
      refine ways.bind (ways.visitPresent value) fun value => ?_
      exact ways.bind (ways.lift _) fun optional => ways.pure _
    · exact ways.diagnose _
  · exact ways.diagnose _

end Visits

namespace Ways

variable (ways : e.Ways Q)
include ways

theorem includeCombinator (type : TypeId) :
    Q (e.includeCombinator type) := by
  unfold Engine.includeCombinator
  dsimp only
  split
  · exact ways.bind (ways.visitAll _) fun _ => ways.pure _
  · split
    · rename_i instantiated
      rw [Bool.and_eq_true] at instantiated
      exact ways.map _ (ways.reference type instantiated.1)
    · split
      · refine ways.bind (ways.lift _) fun types => ?_
        exact ways.map _ (ways.unionNode types)
      · split
        · refine ways.bind (ways.lift _) fun types => ?_
          exact ways.bind (ways.visitAll types) fun _ => ways.pure _
        · split
          · refine ways.bind (ways.includeIndex _) fun index => ?_
            split
            · exact ways.bind (ways.map _ (ways.visit _)) fun object => ways.pure _
            · exact ways.bind (ways.pure none) fun object => ways.pure _
          · exact ways.pure none

theorem includeClauses {declaration : SiteId} {clauses : List HeritageClause}
    (held : clauses ⊆ (e.program.site declaration).heritage) : Q (e.includeClauses clauses) := by
  induction clauses with
  | nil => exact ways.pure _
  | cons clause rest ih =>
      have first : clause ∈ (e.program.site declaration).heritage := held (List.mem_cons_self ..)
      refine ways.bind (ways.mapM_of (ways.base declaration clause first)) fun items => ?_
      refine ways.bind (ih fun later member => held (List.mem_cons_of_mem _ member)) fun others => ?_
      cases clause.token <;> exact ways.pure _

theorem includeHeritage (type : TypeId) : Q (e.includeHeritage type) := by
  unfold Engine.includeHeritage
  dsimp only
  split
  · split
    · exact ways.includeClauses (List.Subset.refl _)
    · exact ways.pure _
  · exact ways.pure _

theorem includeClass (type : TypeId) : Q (e.includeClass type) := by
  refine ways.bind (ways.includeHeritage type) fun heritage => ?_
  refine ways.bind (ways.includeShape type heritage) fun shape => ?_
  have members (exported : List (Option SymbolId)) : Q (do
      let statics ← exported.mapM e.includeStatic
      let constructors ← e.includeConstructors type
      pure (Node.classShape { shape with props := shape.props ++ statics.flatten ++ constructors }
        heritage.implemented)) := by
    refine ways.bind (ways.mapM ways.includeStatic) fun statics => ?_
    exact ways.bind (ways.includeConstructors type) fun _ => ways.pure _
  dsimp only
  split
  · exact ways.bind (ways.lift _) members
  · exact ways.bind (ways.pure _) members

theorem includeObject (type : TypeId) : Q (e.includeObject type) := by
  unfold Engine.includeObject
  dsimp only
  split
  · exact ways.pure none
  · split
    · exact ways.map _ (ways.includeMapped type)
    · split
      · exact ways.map _ (ways.includeClass type)
      · refine ways.bind (ways.includeHeritage type) fun heritage => ?_
        exact ways.bind (ways.includeShape type heritage) fun shape => ways.pure _

theorem firstOf (type : TypeId) (describes : List (TypeId → Extract (Option Node)))
    (each : ∀ describe ∈ describes, Q (describe type)) :
    Q (e.firstOf type describes) := by
  induction describes with
  | nil =>
      exact ways.bind ways.count fun _ => ways.bind (ways.emit _) fun _ => ways.pure _
  | cons describe rest ih =>
      refine ways.bind (each describe (by simp)) fun described => ?_
      cases described with
      | some node => exact ways.pure node
      | none => exact ih fun later member => each later (by simp [member])

theorem includeNamed (type : TypeId) : Q (e.includeNamed type) := by
  refine ways.firstOf type _ ?_
  simp only [List.mem_cons, List.not_mem_nil, or_false, forall_eq_or_imp, forall_eq]
  exact ⟨ways.includeBasic type, ways.includeObject type⟩

theorem includeInline (type : TypeId) : Q (e.includeInline type) := by
  refine ways.firstOf type _ ?_
  simp only [List.mem_cons, List.not_mem_nil, or_false, forall_eq_or_imp, forall_eq]
  exact ⟨ways.includeBasic type, ways.includeCombinator type,
    ways.includeHidden type, ways.includeObject type⟩

theorem includeKnown (type : TypeId) (name : Option String) (external : Q (e.includeExternal type))
    (aliased : ∀ given, name = some given → Q (e.makeAliasRef type given))
    (made : ∀ given, name = some given →
      ((e.program.type type).alias?.isSome && (e.program.type type).alias? !=
        (e.program.type type).symbol) = false →
      (e.isAnonymous given || (e.program.type type).isAnonymousObject) = false →
      (∃ w after, e.includeExternal type w = (.ok none, after)) → Q (e.makeRef (some type) given)) :
    Q (e.includeKnown type name) := by
  unfold Engine.includeKnown
  dsimp only
  split
  · exact ways.bind (ways.typeParameterRef _) fun _ => ways.pure _
  · cases name with
    | none => exact ways.includeInline type
    | some given =>
        dsimp only
        split
        · exact ways.includeInline type
        · split
          · exact aliased given rfl
          · rename_i plain
            refine ways.bind_of external fun w outside after asked => ?_
            split
            · exact ways.pure _
            · split
              · exact ways.includeInline type
              · rename_i titled
                exact made given rfl (Bool.eq_false_iff.mpr plain) (Bool.eq_false_iff.mpr titled)
                  ⟨w, after, asked⟩

/-- The node of a type, once all that it may go by has the property. -/
theorem includeType (type : TypeId) (known : Q (e.includeKnown type (e.nameOf (e.program.type type)))) :
    Q (e.includeType type) := by
  unfold Engine.includeType
  dsimp only
  split
  · exact ways.keyofNode _
  · exact known

theorem aliasBody (site : SiteId) : Q (e.aliasBody site) := by
  refine ways.bind (ways.lift _) fun comment => ?_
  refine ways.bind (ways.declaredTypeParameters site) fun types => ?_
  refine ways.bind (ways.lift _) fun type => ?_
  refine ways.bind (ways.lift _) fun type => ?_
  exact ways.bind (ways.includeInline type) fun child => ways.pure _

end Ways

end Engine

end TypeAtlas
