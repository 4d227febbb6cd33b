import TypeAtlas.Proofs.Extract.Ways
import TypeAtlas.Proofs.Program.Complete
import TypeAtlas.Proofs.Steps

/-!
The extractor gets through whatever a complete program holds: every step comes to a result, unless it
runs out of levels. No question stays without an answer on the way, no record is missing, and nothing
is malformed.
-/

namespace TypeAtlas

variable {α β : Type}

namespace Extract

def Delivers (step : Extract α) : Prop :=
  ∀ w fault after, step w = (.error fault, after) → fault = .tooDeep

theorem delivers_bind {step : Extract α} {next : α → Extract β} (first : Delivers step)
    (rest : ∀ value, Delivers (next value)) : Delivers (step >>= next) := by
  intro w fault final ran
  rcases began : step w with ⟨early | value, after⟩
  · rw [bind_error began] at ran
    cases ran
    exact first w fault final began
  · rw [bind_ok began] at ran
    exact rest value after fault final ran

/-- A question with an answer never stops a step. -/
theorem delivers_told {asked : Except Fault α} {about : α → Prop} (told : Told asked about) :
    Delivers (liftM asked) := by
  obtain ⟨value, rfl, -⟩ := told
  intro w fault after ran
  cases ran

theorem delivers_told_bind {asked : Except Fault α} {about : α → Prop} {next : α → Extract β}
    (told : Told asked about) (rest : ∀ value, about value → Delivers (next value)) :
    Delivers (liftM asked >>= next) := by
  obtain ⟨value, rfl, known⟩ := told
  exact rest value known

theorem delivers_pure (value : α) : Delivers (pure value) := nofun

theorem delivers_tooDeep : Delivers (fail .tooDeep : Extract α) := by
  intro w fault after ran
  cases ran
  rfl

theorem delivers_map (f : α → β) {step : Extract α} (delivers : Delivers step) :
    Delivers (f <$> step) := by
  rw [map_eq]
  exact delivers_bind delivers fun value => delivers_pure (f value)

theorem delivers_mapM {f : α → Extract β} {items : List α}
    (each : ∀ item ∈ items, Delivers (f item)) : Delivers (items.mapM f) := by
  induction items with
  | nil => exact delivers_pure []
  | cons item rest ih =>
      rw [List.mapM_cons]
      refine delivers_bind (each item (List.mem_cons_self ..)) fun first => ?_
      refine delivers_bind (ih fun later member => each later (List.mem_cons_of_mem _ member)) ?_
      exact fun others => delivers_pure _

theorem delivers_get : Delivers (get : Extract Walk) := nofun

theorem delivers_modify (f : Walk → Walk) : Delivers (modify f) := nofun

theorem delivers_emit (event : Event) : Delivers (emit event) := delivers_modify _

theorem delivers_set (name : String) (node : Node) : Delivers (set name node) := delivers_modify _

theorem delivers_resolve (name : String) (types : List Node) (live : Option TypeId) :
    Delivers (resolve name types live) := nofun

theorem delivers_isRegistered (name : String) : Delivers (isRegistered name) :=
  delivers_bind delivers_get fun _ => delivers_pure _

theorem delivers_inScope (name : String) {step : Extract α} (delivers : Delivers step) :
    Delivers (inScope name step) := by
  intro w fault after ran
  rcases inner : step w.openScope with ⟨result, closing⟩
  rw [inScope, inner] at ran
  cases ran
  exact delivers w.openScope fault closing inner

theorem delivers_entry (name : String) {body : Extract Node} (delivers : Delivers body) :
    Delivers (inScope name do Extract.set name (← body)) :=
  delivers_inScope name (delivers_bind delivers fun node => delivers_set name node)

theorem delivers_register (name : String) {body : Extract Node} (delivers : Delivers body) :
    Delivers (Engine.register name body) := by
  refine delivers_bind (delivers_isRegistered name) fun known => ?_
  split
  · exact delivers_pure ()
  · refine delivers_inScope name (delivers_bind (delivers_modify _) fun _ => ?_)
    exact delivers_bind delivers fun node => delivers_set name node

end Extract

namespace Engine

open Extract Build Program

structure Delivering (e : Engine) : Prop where
  visit : ∀ type, Delivers (e.visit type)
  visitNamed : ∀ type name, Delivers (e.visitNamed type name)
  visitInline : ∀ type, Delivers (e.visitInline type)
  bodyOfType : ∀ type, Delivers (e.bodyOfType type)
  bodyOfAlias : ∀ site, e.program.Answered site → Delivers (e.bodyOfAlias site)

variable {e : Engine}

section Steps

variable (complete : e.program.Complete) (ways : e.Delivering)
include complete ways

omit complete in
theorem delivers_visitPresent {type : Option TypeId} (given : type ≠ none) :
    Delivers (e.visitPresent type) :=
  delivers_told_bind (told_present given) fun id _ => ways.visit id

omit complete in
theorem delivers_visitAll {types : List (Option TypeId)} (given : none ∉ types) :
    Delivers (e.visitAll types) :=
  delivers_mapM fun _ member => delivers_visitPresent ways fun gap => given (gap ▸ member)

omit ways in
theorem delivers_comment {next : Option String → Extract α} (symbol : Option SymbolId)
    (rest : ∀ comment, Delivers (next comment)) :
    Delivers (liftM (e.program.comment symbol) >>= next) :=
  delivers_told_bind (told_comment complete symbol) fun comment _ => rest comment

omit ways in
theorem delivers_normalizeArguments (type : TypeId) {params : Slots SiteId} (full : params.Full)
    (types : List Node) (name : String) : Delivers (e.normalizeArguments type params types name) := by
  refine delivers_bind delivers_get fun w => ?_
  refine delivers_told_bind (told_argumentIds complete type) fun ids _ => ?_
  refine delivers_told_bind (told_each full) fun params same => ?_
  subst same
  refine delivers_told (told_trimDefaults complete ids ?_ _)
  rw [List.mem_reverse]
  exact full.whole

omit complete ways in
theorem delivers_typeParameterRef (name : String) : Delivers (typeParameterRef name) :=
  delivers_bind (delivers_modify _) fun _ => delivers_pure _

theorem delivers_includeRef (type : TypeId) (name : String) (live : Option TypeId) :
    Delivers (e.includeRef type name live) := by
  have arguments := (complete.whole.types type).arguments
  refine delivers_bind (delivers_visitAll ways arguments) fun types => ?_
  refine delivers_bind (delivers_normalizeArguments complete type ?_ types name) fun kept => ?_
  · split
    · exact (complete.whole.sites _).typeParameters
    · exact Slots.full_some (by simp)
  · exact delivers_bind (delivers_resolve _ _ _) fun ref => delivers_pure _

theorem delivers_makeRef (type : TypeId) (name : String) :
    Delivers (e.makeRef (some type) name) := by
  refine delivers_bind (delivers_register name (ways.bodyOfType _)) fun _ => ?_
  exact delivers_includeRef complete ways type name none

theorem delivers_ensureNamed (type : TypeId) (name : String) :
    Delivers (e.ensureNamed (some type) name) := by
  refine delivers_bind (delivers_isRegistered name) fun known => ?_
  split
  · exact delivers_pure ()
  · exact delivers_map _ (delivers_makeRef complete ways type name)

omit complete ways in
theorem delivers_bindImport (symbol : SymbolId) (origin : Origin) (scope : ImportScope) :
    Delivers (e.bindImport symbol origin scope) := by
  have named : Delivers (e.importName symbol origin scope) := by cases scope <;> exact nofun
  have registered (name : String) (node : Node) : Delivers (registerImport name node) := by
    refine delivers_bind delivers_get fun w => ?_
    dsimp only
    split
    · exact delivers_set name node
    · exact delivers_pure ()
  refine delivers_bind named fun name => ?_
  exact delivers_bind (registered _ _) fun _ => delivers_pure name

omit complete ways in
theorem delivers_externalName (symbol : SymbolId) : Delivers (e.externalName (some symbol)) := by
  unfold externalName
  dsimp only
  split
  · exact delivers_pure none
  · refine delivers_told_bind (told_present nofun) fun symbol _ => ?_
    split
    · exact delivers_pure none
    · exact delivers_map some (delivers_bindImport _ _ _)

omit complete ways in
theorem container_of_containerFrom {hops : Nat} {start : Option SiteId} {symbol : SymbolId}
    (found : e.containerFrom hops start = some symbol) :
    ∃ place, e.program.isNamedContainer (some place) = true ∧
      (e.program.site place).symbol = some symbol := by
  induction hops generalizing start with
  | zero => cases found
  | succ hops ih =>
      cases start with
      | none => cases found
      | some place =>
          rw [containerFrom] at found
          split at found
          · rename_i named
            exact ⟨place, named, found⟩
          · exact ih found

omit ways in
theorem declaresType_of_containerFrom {hops : Nat} {start : Option SiteId} {symbol : SymbolId}
    (found : e.containerFrom hops start = some symbol) :
    (e.program.symbol symbol).declaresType = true := by
  obtain ⟨place, named, held⟩ := container_of_containerFrom found
  obtain ⟨manner, ages, now, fits⟩ := complete.fits
  have stands := ((fits.sites place).symbol symbol held).2
  rw [isNamedContainer, Bool.and_eq_true] at named
  have kinds : (e.program.site place).kind = .interfaceDeclaration ∨
      (e.program.site place).kind = .classDeclaration ∨ (e.program.site place).kind = .typeAlias := by
    simpa [hasKind] using named.1
  have nominal (known : (e.program.symbol symbol).isNominal = true) :
      (e.program.symbol symbol).declaresType = true := by
    rw [Symbol.declaresType, Symbol.isTypeSymbol, known]
    rfl
  rcases kinds with kind | kind | kind <;> rw [kind] at stands
  · exact nominal stands
  · exact nominal stands
  · have aliased : (e.program.symbol symbol).hasFlag .typeAlias = true := stands
    rw [Symbol.declaresType, aliased, Bool.or_true]
    rfl

theorem delivers_includeHidden (type : TypeId) : Delivers (e.includeHidden type) := by
  unfold includeHidden
  dsimp only
  split
  · exact delivers_pure none
  · split
    · exact delivers_pure none
    · split
      · exact delivers_pure none
      · rename_i container found
        have declares := declaresType_of_containerFrom complete found
        refine delivers_bind (delivers_emit _) fun _ => ?_
        refine delivers_told_bind (told_declaredType complete declares) fun declared known => ?_
        obtain ⟨id, rfl, -⟩ := known
        exact delivers_map some (delivers_visitPresent ways nofun)

theorem delivers_includeExternal (type : TypeId) : Delivers (e.includeExternal type) := by
  unfold includeExternal
  dsimp only
  split
  · exact delivers_pure none
  · split
    · exact delivers_pure none
    · split
      · split
        · exact delivers_includeHidden complete ways type
        · exact delivers_pure none
      · split
        · exact delivers_pure none
        · refine delivers_bind (delivers_bindImport _ _ _) fun name => ?_
          exact delivers_map some (delivers_includeRef complete ways type name _)

theorem delivers_makeAliasRef {type : TypeId} (aliased : (e.program.type type).alias? ≠ none)
    (name : String) : Delivers (e.makeAliasRef type name) := by
  obtain ⟨symbol, held⟩ := Option.ne_none_iff_exists'.mp aliased
  obtain ⟨manner, ages, now, fits⟩ := complete.fits
  have flagged := ((fits.types type).aliased symbol held).1
  obtain ⟨site, first, -, answered⟩ := (complete.done (.symbol symbol)).aliased flagged
  have declared : e.program.firstDeclaration (some symbol) = some site := first
  have reference (name : String) : Delivers (do
      let types ← e.visitAll (e.program.type type).aliasArguments.slots
      let types ← e.normalizeArguments type (e.program.site site).typeParameters types name
      pure (Node.ref { name, types })) := by
    have arguments := (complete.whole.types type).aliasArguments
    have params := (complete.whole.sites site).typeParameters
    refine delivers_bind (delivers_visitAll ways arguments) fun types => ?_
    refine delivers_bind (delivers_normalizeArguments complete type params types name) ?_
    exact fun kept => delivers_pure _
  unfold makeAliasRef
  simp only [held, declared]
  refine delivers_bind (delivers_externalName symbol) fun bound => ?_
  split
  · rw [pure_bind]
    exact reference _
  · refine delivers_bind (delivers_register name (ways.bodyOfAlias site answered)) fun _ => ?_
    rw [pure_bind]
    exact reference name

theorem delivers_includeMember {type : Option TypeId} (given : type ≠ none) :
    Delivers (e.includeMember type) := by
  refine delivers_told_bind (told_present given) fun id _ => ?_
  refine delivers_bind (ways.visitInline id) fun value => ?_
  exact delivers_comment complete _ fun comment => delivers_pure _

theorem delivers_includeTerminal {type : TypeId} {terminal : Terminal}
    (found : Terminal.ofFlags? (e.program.type type).flags = some terminal) :
    Delivers (e.includeTerminal (e.program.type type) terminal) := by
  have whole := complete.whole.types type
  obtain ⟨rule, member, same, flagged⟩ := Terminal.flagged_of_ofFlags found
  have members (result : List (Node.Member Node) → Node) : Delivers (do
      let values ← (← (e.program.type type).types.each).mapM e.includeMember
      pure (result values)) := by
    refine delivers_told_bind (told_each whole.types) fun types same => ?_
    subst same
    refine delivers_bind (delivers_mapM fun member listed => ?_) fun values => delivers_pure _
    exact delivers_includeMember complete ways fun gap => whole.types.whole (gap ▸ listed)
  cases terminal with
  | primitive kind => exact delivers_pure _
  | literal =>
      have literals : ∀ rule ∈ Terminal.rules, rule.2 = .literal →
          .stringLiteral ∈ rule.1 ∨ .numberLiteral ∈ rule.1 := by decide
      have given := whole.value ((literals rule member same).imp (flagged _) (flagged _))
      obtain ⟨value, held⟩ := Option.ne_none_iff_exists'.mp given
      unfold includeTerminal
      simp only [held]
      exact delivers_pure _
  | truth => exact delivers_pure _
  | enumLiteral => exact delivers_comment complete _ fun comment => members _
  | enumeration => exact delivers_comment complete _ fun comment => members _
  | bigintLiteral => exact delivers_pure _
  | conditional =>
      have conditionals : ∀ rule ∈ Terminal.rules, rule.2 = .conditional → .conditional ∈ rule.1 := by
        decide
      obtain ⟨check, extended, primary, alternate⟩ :=
        whole.conditional (flagged _ (conditionals rule member same))
      refine delivers_bind (delivers_visitPresent ways extended) fun _ => ?_
      refine delivers_bind (delivers_visitPresent ways check) fun _ => ?_
      refine delivers_bind (delivers_visitPresent ways primary) fun _ => ?_
      exact delivers_bind (delivers_visitPresent ways alternate) fun _ => delivers_pure _
  | substitution =>
      have substitutions : ∀ rule ∈ Terminal.rules, rule.2 = .substitution → .substitution ∈ rule.1 := by
        decide
      have base := whole.substitution (flagged _ (substitutions rule member same))
      exact delivers_bind (delivers_visitPresent ways base) fun _ => delivers_pure _
  | nonPrimitive => exact delivers_pure _

theorem delivers_includeBasic (type : TypeId) : Delivers (e.includeBasic type) := by
  unfold includeBasic
  dsimp only
  split
  · rename_i found
    exact delivers_map some (delivers_includeTerminal complete ways found)
  · exact delivers_pure none

omit complete in
theorem delivers_keyofNode {operand : Option TypeId} (given : operand ≠ none) :
    Delivers (e.keyofNode operand) :=
  delivers_bind (delivers_visitPresent ways given) fun _ => delivers_pure _

omit complete in
theorem delivers_unionNode {types : List (Option TypeId)} (given : none ∉ types) :
    Delivers (e.unionNode types) :=
  delivers_bind (delivers_visitAll ways given) fun _ => delivers_pure _

omit complete in
theorem delivers_includeIndex (type : Option TypeId) : Delivers (e.includeIndex type) := by
  unfold includeIndex
  split
  · exact delivers_pure none
  · split
    · exact delivers_map some (delivers_keyofNode ways nofun)
    · exact delivers_map some (ways.visit _)

theorem delivers_includeReference {type : TypeId} (given : (e.program.type type).symbol ≠ none) :
    Delivers (e.includeReference type) := by
  refine delivers_bind (delivers_includeExternal complete ways type) fun outside => ?_
  split
  · exact delivers_pure _
  · refine delivers_told_bind (told_present given) fun symbol _ => ?_
    refine delivers_bind (delivers_ensureNamed complete ways type _) fun _ => ?_
    exact delivers_includeRef complete ways type _ _

theorem delivers_includeCombinator (type : TypeId) : Delivers (e.includeCombinator type) := by
  have whole := complete.whole.types type
  unfold includeCombinator
  dsimp only
  split
  · exact delivers_bind (delivers_visitAll ways whole.arguments) fun _ => delivers_pure _
  · split
    · rename_i reference
      rw [Bool.and_eq_true, Option.isSome_iff_ne_none] at reference
      exact delivers_map some (delivers_includeReference complete ways reference.2)
    · split
      · refine delivers_told_bind (told_each whole.types) fun types same => ?_
        subst same
        exact delivers_map some (delivers_unionNode ways whole.types.whole)
      · split
        · refine delivers_told_bind (told_each whole.types) fun types same => ?_
          subst same
          exact delivers_bind (delivers_visitAll ways whole.types.whole) fun _ => delivers_pure _
        · split
          · refine delivers_bind (delivers_includeIndex ways _) fun index => ?_
            split
            · exact delivers_bind (delivers_map some (ways.visit _)) fun _ => delivers_pure _
            · rw [pure_bind]
              exact delivers_pure _
          · exact delivers_pure none

theorem delivers_includeWritten {site : Option SiteId}
    (answered : ∀ id, site = some id → e.program.Answered id) : Delivers (e.includeWritten site) := by
  unfold includeWritten
  dsimp only
  split
  · exact delivers_pure none
  · rename_i id
    have answered := answered id rfl
    split
    · rename_i operator
      refine delivers_told_bind (told_operand complete _ answered operator) fun operand given => ?_
      exact delivers_map some (delivers_keyofNode ways given)
    · split
      · rename_i union
        refine delivers_told_bind (told_parts complete answered union) fun parts known => ?_
        rw [mapM_lift]
        have told : Told (parts.mapM e.program.typeWritten) fun types => ∀ type ∈ types, type ≠ none := by
          refine told_mapM fun part member => ?_
          obtain ⟨place, rfl, answered⟩ := known part member
          exact told_typeWritten complete answered
        refine delivers_told_bind told fun types given => ?_
        exact delivers_map some (delivers_unionNode ways fun gap => given none gap rfl)
      · exact delivers_pure none

theorem delivers_includeWrittenOrInline {site : SiteId} (answered : e.program.Answered site) :
    Delivers (e.includeWrittenOrInline (some site)) := by
  refine delivers_bind (delivers_includeWritten complete ways fun id same => ?_) fun written => ?_
  · cases same
    exact answered
  · split
    · exact delivers_pure _
    · refine delivers_told_bind (told_typeWritten complete answered) fun type given => ?_
      exact delivers_told_bind (told_present given) fun id _ => ways.visitInline id

theorem delivers_includeAnnotation {site : SiteId} (answered : e.program.Answered site) :
    Delivers (e.includeAnnotation (some site)) := by
  unfold includeAnnotation
  dsimp only
  split
  · refine delivers_told_bind (told_typeAt complete answered) fun type given => ?_
    exact delivers_told_bind (told_present given) fun id _ => ways.visitNamed id _
  · split
    · rename_i declared infer held
      have kind : (e.program.site site).kind = .inferType := by
        simpa [isInferSite, hasKind] using infer
      have owned := (complete.whole.sites site).inferred kind declared held
      obtain ⟨symbol, named⟩ := Option.ne_none_iff_exists'.mp owned
      obtain ⟨manner, ages, now, fits⟩ := complete.fits
      have stands := ((fits.sites declared).symbol symbol named).2
      rw [(fits.sites site).inferredAt kind declared held] at stands
      have flagged : (e.program.symbol symbol).hasFlag .typeParameter = true := stands
      have declares : (e.program.symbol symbol).declaresType = true := by
        rw [Symbol.declaresType, flagged, Bool.or_true]
      simp only [named]
      refine delivers_told_bind (told_declaredType complete declares) fun type known => ?_
      obtain ⟨id, rfl, -⟩ := known
      exact delivers_bind (delivers_visitPresent ways (by rintro ⟨⟩)) fun _ => delivers_pure _
    · exact delivers_includeWrittenOrInline complete ways answered

theorem delivers_includeConstraint (type : TypeId) : Delivers (e.includeConstraint type) := by
  unfold includeConstraint
  dsimp only
  split
  · rename_i written held
    obtain ⟨place, -, bound⟩ := Option.bind_eq_some_iff.mp held
    have answered := (complete.whole.sites place).constraint written bound
    split
    · rename_i operator
      refine delivers_told_bind (told_operand complete _ answered operator) fun operand given => ?_
      exact delivers_map some (delivers_keyofNode ways given)
    · refine delivers_told_bind (told_typeAt complete answered) fun bound given => ?_
      exact delivers_map some (delivers_visitPresent ways given)
  · split
    · exact delivers_map some (ways.visit _)
    · exact delivers_pure none

theorem delivers_includeDefault (type : TypeId) : Delivers (e.includeDefault type) := by
  unfold includeDefault
  dsimp only
  split
  · rename_i written held
    obtain ⟨place, -, fallback⟩ := Option.bind_eq_some_iff.mp held
    have answered := (complete.whole.sites place).default written fallback
    refine delivers_told_bind (told_typeAt complete answered) fun bound given => ?_
    exact delivers_map some (delivers_visitPresent ways given)
  · exact delivers_pure none

theorem delivers_includeTypeParameters {params : Slots TypeId} (given : none ∉ params.slots) :
    Delivers (e.includeTypeParameters params) := by
  refine delivers_bind (delivers_mapM fun param member => ?_) fun described => delivers_pure _
  have there : param ≠ none := fun gap => given (gap ▸ member)
  refine delivers_told_bind (told_present there) fun id _ => ?_
  unfold includeTypeParameter
  split
  · exact delivers_pure none
  · refine delivers_bind (delivers_typeParameterRef _) fun parameter => ?_
    refine delivers_bind (delivers_includeConstraint complete ways id) fun constraint => ?_
    exact delivers_bind (delivers_includeDefault complete ways id) fun default => delivers_pure _

theorem delivers_declaredTypeParameters (site : SiteId) :
    Delivers (e.declaredTypeParameters site) := by
  have whole := complete.whole.sites site
  refine delivers_told_bind (told_each whole.typeParameters) fun written same => ?_
  subst same
  rw [mapM_lift]
  have told : Told ((e.program.site site).typeParameters.slots.mapM e.program.typeAt)
      fun params => ∀ param ∈ params, param ≠ none := by
    refine told_mapM fun slot member => ?_
    obtain ⟨param, rfl⟩ := exists_of_mem whole.typeParameters.whole member
    exact told_typeAt complete (whole.parameter param member)
  refine delivers_told_bind told fun params given => ?_
  exact delivers_includeTypeParameters complete ways fun gap => given none gap rfl

omit complete ways in
theorem told_truth (name : String) {value : Option Bool} (set : value ≠ none) :
    ∃ held, truth name value = .ok held := by
  obtain ⟨held, rfl⟩ := Option.ne_none_iff_exists'.mp set
  exact ⟨held, rfl⟩

theorem delivers_includeParameter {param : SymbolId} (annotated : e.program.Annotated param) :
    Delivers (e.includeParameter (some param)) := by
  obtain ⟨site, held, typed⟩ := annotated
  obtain ⟨written, below⟩ := Option.ne_none_iff_exists'.mp typed
  have whole := complete.whole.sites site
  refine delivers_told_bind (told_present nofun) fun id same => ?_
  cases same
  simp only [held, below]
  have value := delivers_includeAnnotation complete ways (whole.type written below)
  refine delivers_bind value fun value => ?_
  obtain ⟨spread, spreads⟩ := told_truth "spread" whole.spread
  obtain ⟨optional, chosen⟩ := told_truth "optional" whole.optional
  rw [spreads, chosen]
  exact delivers_pure _

theorem delivers_includeSignature {signature : SignatureId}
    (inside : signature.index < e.program.signatures.size) :
    Delivers (e.includeSignature (some signature)) := by
  have whole := complete.whole.signatures signature inside
  refine delivers_told_bind (told_present nofun) fun id same => ?_
  cases same
  refine delivers_bind (delivers_includeTypeParameters complete ways whole.typeParameters) fun types => ?_
  refine delivers_told_bind (told_each whole.parameters) fun params same => ?_
  subst same
  refine delivers_bind (delivers_mapM fun slot member => ?_) fun parameters => ?_
  · obtain ⟨param, rfl⟩ := exists_of_mem whole.parameters.whole member
    exact delivers_includeParameter complete ways (whole.annotated param member)
  · exact delivers_bind (delivers_visitPresent ways whole.returns) fun returns => delivers_pure _

theorem delivers_signatureAt {site : SiteId} (signed : e.program.Signed site)
    {next : Node.Callable Node → Extract α} (rest : ∀ callable, Delivers (next callable)) :
    Delivers (do next (← e.includeSignature (← e.program.signatureOf (some site)))) := by
  refine delivers_told_bind (told_signatureOf complete signed) fun signature known => ?_
  obtain ⟨id, rfl, inside⟩ := known
  exact delivers_bind (delivers_includeSignature complete ways inside) rest

theorem delivers_includeConstructors (type : TypeId) : Delivers (e.includeConstructors type) := by
  refine delivers_told_bind (told_constructorsOf complete _) fun sites known => ?_
  refine delivers_mapM fun slot member => ?_
  obtain ⟨site, rfl, signed⟩ := known slot member
  exact delivers_signatureAt complete ways signed fun callable => delivers_pure _

theorem delivers_includeProp {prop : SymbolId} (shown : (e.program.symbol prop).isShown = true) :
    Delivers (e.includeProp prop) := by
  obtain ⟨site, first, known⟩ := (complete.done (.symbol prop)).shown shown
  have declared : e.program.firstDeclaration (some prop) = some site := first
  refine delivers_told_bind (told_modifiersOf complete _) fun modifiers _ => ?_
  refine delivers_comment complete _ fun comment => ?_
  refine delivers_bind ?_ fun value => delivers_pure _
  unfold includePropValue
  simp only [declared]
  split
  · rename_i method
    rw [if_pos method] at known
    exact delivers_signatureAt complete ways known fun callable => delivers_pure _
  · rename_i property
    rw [if_neg property] at known
    refine delivers_bind (delivers_includeWritten complete ways ?_) fun written => ?_
    · exact (complete.whole.sites site).type
    · split
      · exact delivers_pure _
      · refine delivers_told_bind (told_valueTypeAt complete prop known) fun type given => ?_
        exact delivers_visitPresent ways given

theorem delivers_includeOwnIndex (type : TypeId) (edges : List Node) (kind : IndexKind) :
    Delivers (e.includeOwnIndex type edges kind) := by
  unfold includeOwnIndex
  split
  · exact delivers_pure []
  · rename_i value _
    split
    · exact delivers_pure []
    · refine delivers_bind ?_ fun node => delivers_pure _
      refine delivers_told_bind (told_keyName complete _) fun name _ => ?_
      exact delivers_bind (ways.visit value) fun value => delivers_pure _

theorem delivers_includeBase {site : SiteId} (answered : e.program.Answered site) :
    Delivers (e.includeBase (some site)) := by
  refine delivers_told_bind (told_typeAt complete answered) fun base given => ?_
  refine delivers_bind (delivers_visitPresent ways given) fun node => ?_
  split
  · exact delivers_pure _
  · refine delivers_told_bind (told_present (by rintro ⟨⟩)) fun place _ => ?_
    split
    · exact delivers_pure _
    · split
      · exact delivers_pure _
      · refine delivers_bind (delivers_isRegistered _) fun known => ?_
        dsimp only
        split
        · exact delivers_bind (delivers_set _ _) fun _ => delivers_pure _
        · exact delivers_pure _

theorem delivers_includeHeritage (type : TypeId) : Delivers (e.includeHeritage type) := by
  have clauses (clauses : List HeritageClause) (answered : ∀ clause ∈ clauses, ∀ slot ∈ clause.types,
      ∃ base, slot = some base ∧ e.program.Answered base) : Delivers (e.includeClauses clauses) := by
    induction clauses with
    | nil => exact delivers_pure _
    | cons clause rest ih =>
        refine delivers_bind (delivers_mapM fun slot member => ?_) fun items => ?_
        · obtain ⟨base, rfl, answered⟩ := answered clause (List.mem_cons_self ..) slot member
          exact delivers_includeBase complete ways answered
        · refine delivers_bind (ih fun later member => ?_) fun others => ?_
          · exact answered later (List.mem_cons_of_mem _ member)
          · cases clause.token <;> exact delivers_pure _
  unfold includeHeritage
  dsimp only
  split
  · split
    · exact clauses _ (complete.whole.sites _).heritage
    · exact delivers_pure _
  · exact delivers_pure _

theorem delivers_includeShape (type : TypeId) (heritage : Heritage) :
    Delivers (e.includeShape type heritage) := by
  have whole := complete.whole.types type
  obtain ⟨manner, ages, now, fits⟩ := complete.fits
  refine delivers_bind delivers_get fun w => ?_
  refine delivers_told_bind (told_inheritedIds complete w.registry heritage.edges) fun inherited _ => ?_
  refine delivers_told_bind (told_each whole.properties) fun properties same => ?_
  subst same
  refine delivers_bind (delivers_mapM fun slot member => ?_) fun props => ?_
  · obtain ⟨prop, rfl⟩ := exists_of_mem whole.properties.whole member
    refine delivers_told_bind (told_present nofun) fun id same => ?_
    cases same
    split
    · exact delivers_pure []
    · exact delivers_bind (delivers_includeProp complete ways (whole.shown prop member)) fun node =>
        delivers_pure _
  refine delivers_bind (delivers_includeOwnIndex complete ways _ _ _) fun numberIndex => ?_
  refine delivers_bind (delivers_includeOwnIndex complete ways _ _ _) fun stringIndex => ?_
  refine delivers_told_bind (told_each whole.callSignatures) fun signatures same => ?_
  subst same
  refine delivers_bind (delivers_mapM fun slot member => ?_) fun calls => ?_
  · obtain ⟨signature, rfl⟩ := exists_of_mem whole.callSignatures.whole member
    have inside := ((fits.types type).calls signature member).1
    exact delivers_bind (delivers_includeSignature complete ways inside) fun callable =>
      delivers_pure _
  refine delivers_comment complete _ fun comment => ?_
  refine delivers_bind (delivers_includeTypeParameters complete ways whole.typeParameters) ?_
  exact fun types => delivers_pure _

theorem delivers_includeStatic {member : SymbolId} (static : e.program.StaticMember member) :
    Delivers (e.includeStatic (some member)) := by
  refine delivers_told_bind (told_present nofun) fun id same => ?_
  cases same
  rcases static with prototype | ⟨shown, site, held, kind⟩
  · rw [isPrototype, prototype]
    exact delivers_pure []
  · rw [held]
    split
    · rename_i place _ same
      cases same
      refine delivers_bind (delivers_includeProp complete ways ?_) fun node => delivers_pure _
      cases stands : (e.program.site site).symbol with
      | none => exact shown
      | some symbol => exact (complete.whole.sites site).member kind symbol stands
    · exact delivers_pure []

theorem delivers_includeClass {type : TypeId} (isClass : (e.program.type type).isClass = true) :
    Delivers (e.includeClass type) := by
  obtain ⟨manner, ages, now, fits⟩ := complete.fits
  have nominal : (e.program.type type).isNominal = true := by
    rw [TypeInfo.isClass, Bool.and_eq_true] at isClass
    rw [TypeInfo.isNominal, isClass.2, Bool.or_true]
  obtain ⟨-, -, -, -, -, symbol, held, known⟩ := (fits.types type).nominal nominal
  have whole := complete.whole.symbols symbol
  refine delivers_bind (delivers_includeHeritage complete ways type) fun heritage => ?_
  refine delivers_bind (delivers_includeShape complete ways type heritage) fun shape => ?_
  simp only [held]
  refine delivers_told_bind (told_each whole.exports) fun exported same => ?_
  subst same
  refine delivers_bind (delivers_mapM fun slot member => ?_) fun statics => ?_
  · obtain ⟨static, rfl⟩ := exists_of_mem whole.exports.whole member
    exact delivers_includeStatic complete ways (whole.statics known static member)
  · exact delivers_bind (delivers_includeConstructors complete ways type) fun _ => delivers_pure _

theorem delivers_includeMapped {type : TypeId} (mapped : (e.program.type type).isMapped = true) :
    Delivers (e.includeMapped type) := by
  rw [TypeInfo.isMapped, Bool.and_eq_true] at mapped
  obtain ⟨manner, ages, now, fits⟩ := complete.fits
  obtain ⟨symbol, place, written, key, held, -, first, -, typed, -, keyed, parameter⟩ :=
    (fits.types type).mapped mapped.2
  obtain ⟨-, keySymbol, named, -⟩ := (fits.types key).parameter parameter
  have whole := complete.whole.sites place
  have declared : e.program.firstDeclaration (some symbol) = some place := first
  unfold includeMapped
  simp only [keyed, held, declared, named, typed]
  refine delivers_bind (delivers_modify _) fun _ => ?_
  refine delivers_told_bind (told_typeWritten complete (whole.type written typed)) fun value given => ?_
  refine delivers_comment complete _ fun comment => ?_
  refine delivers_bind (delivers_includeConstraint complete ways key) fun constraint => ?_
  refine delivers_bind (delivers_visitPresent ways given) fun value => ?_
  obtain ⟨optional, chosen⟩ := told_truth "optional" whole.optional
  rw [chosen]
  exact delivers_pure _

theorem delivers_includeObject (type : TypeId) : Delivers (e.includeObject type) := by
  unfold includeObject
  dsimp only
  split
  · exact delivers_pure none
  · split
    · rename_i mapped
      exact delivers_map some (delivers_includeMapped complete ways mapped)
    · split
      · rename_i isClass
        exact delivers_map some (delivers_includeClass complete ways isClass)
      · refine delivers_bind (delivers_includeHeritage complete ways type) fun heritage => ?_
        exact delivers_bind (delivers_includeShape complete ways type heritage) fun shape =>
          delivers_pure _

omit complete ways in
theorem delivers_firstOf (type : TypeId) (describes : List (TypeId → Extract (Option Node)))
    (each : ∀ describe ∈ describes, Delivers (describe type)) :
    Delivers (e.firstOf type describes) := by
  induction describes with
  | nil =>
      refine delivers_bind (delivers_modify _) fun _ => ?_
      exact delivers_bind (delivers_emit _) fun _ => delivers_pure _
  | cons describe rest ih =>
      refine delivers_bind (each describe (List.mem_cons_self ..)) fun described => ?_
      cases described with
      | some node => exact delivers_pure node
      | none => exact ih fun later member => each later (List.mem_cons_of_mem _ member)

theorem delivers_includeNamed (type : TypeId) : Delivers (e.includeNamed type) := by
  apply delivers_firstOf
  simp only [List.mem_cons, List.not_mem_nil, or_false, forall_eq_or_imp, forall_eq]
  exact ⟨delivers_includeBasic complete ways type, delivers_includeObject complete ways type⟩

theorem delivers_includeInline (type : TypeId) : Delivers (e.includeInline type) := by
  apply delivers_firstOf
  simp only [List.mem_cons, List.not_mem_nil, or_false, forall_eq_or_imp, forall_eq]
  exact ⟨delivers_includeBasic complete ways type, delivers_includeCombinator complete ways type,
    delivers_includeHidden complete ways type, delivers_includeObject complete ways type⟩

theorem delivers_includeKnown (type : TypeId) (name : Option String) :
    Delivers (e.includeKnown type name) := by
  have inline := delivers_includeInline complete ways type
  unfold includeKnown
  dsimp only
  split
  · exact delivers_bind (delivers_typeParameterRef _) fun ref => delivers_pure _
  · split
    · exact inline
    · split
      · exact inline
      · split
        · rename_i aliased
          rw [Bool.and_eq_true, Option.isSome_iff_ne_none] at aliased
          exact delivers_makeAliasRef complete ways aliased.1 _
        · refine delivers_bind (delivers_includeExternal complete ways type) fun outside => ?_
          split
          · exact delivers_pure _
          · split
            · exact inline
            · exact delivers_makeRef complete ways type _

theorem delivers_includeType (type : TypeId) : Delivers (e.includeType type) := by
  unfold includeType
  dsimp only
  split
  · exact delivers_keyofNode ways nofun
  · exact delivers_includeKnown complete ways type _

theorem delivers_aliasBody {site : SiteId} (answered : e.program.Answered site) :
    Delivers (e.aliasBody site) := by
  refine delivers_comment complete _ fun comment => ?_
  refine delivers_bind (delivers_declaredTypeParameters complete ways site) fun types => ?_
  refine delivers_told_bind (told_typeAt complete answered) fun type given => ?_
  refine delivers_told_bind (told_present given) fun id _ => ?_
  exact delivers_bind (delivers_includeInline complete ways id) fun child => delivers_pure _

end Steps

end Engine

end TypeAtlas
