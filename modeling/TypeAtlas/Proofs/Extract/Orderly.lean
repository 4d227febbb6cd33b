import TypeAtlas.Program.Builder.Declared
import TypeAtlas.Proofs.Extract.Ways

/-!
The extractor goes from type to type in orderly steps, whatever the program looks like and however a
step ends. This is the discipline of the registry: what one call of `includeType` may do to a walk, at any
moment of an extraction and at any depth.
-/

namespace TypeAtlas

namespace Engine

open Extract

structure Orderly (e : Engine) : Prop where
  visit : ∀ type, Extract.Orderly (e.visit type)
  visitNamed : ∀ type name, Extract.Orderly (e.visitNamed type name)
  visitInline : ∀ type, Extract.Orderly (e.visitInline type)
  bodyOfType : ∀ type, Extract.Orderly (e.bodyOfType type)
  bodyOfAlias : ∀ site, Extract.Orderly (e.bodyOfAlias site)

theorem orderly_register (name : String) {body : Extract Node} (ordered : Extract.Orderly body) :
    Extract.Orderly (register name body) := by
  intro w
  refine keeps_bind (orderly_isRegistered name w) fun known after ran _ => ?_
  cases ran
  cases fresh : w.registry.has name with
  | true => exact orderly_pure () w
  | false => exact keeps_reserved fresh ordered

theorem has_of_register {name : String} {body : Extract Node} {w after : Walk}
    (ran : register name body w = (.ok (), after)) : after.registry.has name = true := by
  obtain ⟨known, between, asked, ran⟩ := of_bind_ok ran
  cases asked
  cases fresh : w.registry.has name with
  | true =>
      rw [fresh] at ran
      cases ran
      exact fresh
  | false =>
      rw [fresh, if_neg Bool.false_ne_true] at ran
      obtain ⟨final, inner, rfl⟩ := of_inScope_ok ran
      obtain ⟨_, reserved, _, inner⟩ := of_bind_ok inner
      obtain ⟨node, built, _, inner⟩ := of_bind_ok inner
      cases inner
      rw [Walk.registry_closeScope]
      exact Registry.has_set_self built.registry name node

theorem has_of_registerImport {name : String} {node : Node} {w after : Walk}
    (ran : registerImport name node w = (.ok (), after)) : after.registry.has name = true := by
  obtain ⟨seen, between, got, ran⟩ := of_bind_ok ran
  cases got
  dsimp only at ran
  split at ran
  · cases ran
    exact Registry.has_set_self _ _ _
  · rename_i known
    cases ran
    cases held : w.registry.has name with
    | true => rfl
    | false => simp [held] at known

theorem has_of_bindImport {e : Engine} {symbol : SymbolId} {origin : Origin} {scope : ImportScope}
    {name : String} {w after : Walk}
    (ran : e.bindImport symbol origin scope w = (.ok name, after)) :
    after.registry.has name = true := by
  obtain ⟨bound, named, _, ran⟩ := of_bind_ok ran
  obtain ⟨_, written, wrote, ran⟩ := of_bind_ok ran
  cases ran
  exact has_of_registerImport wrote

theorem composes : Composes Extract.Orderly where
  bind_of first rest w := keeps_bind (first w) fun value after ran _ => rest w value after ran after
  same := orderly_of_same
  emit := orderly_emit
  declareLocal := orderly_declareLocal
  count _ := ⟨Walk.grows_of_same rfl rfl rfl rfl Walk.Reachable.count, fun _ _ => Walk.settled_of_same rfl⟩

section Steps

variable {e : Engine}

omit e in
theorem orderly_registerImport (name : String) (node : Node) :
    Extract.Orderly (registerImport name node) := by
  intro w
  refine keeps_bind (orderly_get w) fun seen after got _ => ?_
  cases got
  dsimp only
  split
  · rename_i unfilled
    refine keeps_set (fun node held => ?_) _
    rw [Registry.has_of_get? held.1, held.2] at unfilled
    cases unfilled
  · exact orderly_pure () w

omit e in
theorem registerImport_apply (name : String) (node : Node) (w : Walk) :
    registerImport name node w =
      (.ok (), if !w.registry.has name || w.registry.isPlaceholder name then w.set name node else w) := by
  have seen : registerImport name node w =
      (if !w.registry.has name || w.registry.isPlaceholder name then set name node else pure ()) w := rfl
  rw [seen]
  split <;> rfl

theorem bindModule_apply (symbol : SymbolId) (home : String) (w : Walk) :
    e.bindImport symbol (.module_ home) .module_ w =
      (.ok (w.bind home (e.program.symbol symbol).name).1,
        (registerImport (w.bind home (e.program.symbol symbol).name).1
          (.imported (e.program.symbol symbol).name (some home) .module_)
          (w.bind home (e.program.symbol symbol).name).2).2) := by
  have bound : e.importName symbol (.module_ home) .module_ w =
      (.ok (w.bind home (e.program.symbol symbol).name).1,
        (w.bind home (e.program.symbol symbol).name).2) := rfl
  have steps : e.bindImport symbol (.module_ home) .module_ w = (do
      let name := (w.bind home (e.program.symbol symbol).name).1
      registerImport name (.imported (e.program.symbol symbol).name (some home) .module_)
      pure name) (w.bind home (e.program.symbol symbol).name).2 := bind_ok bound
  rw [steps, bind_ok (registerImport_apply _ _ _), pure_apply, registerImport_apply]

theorem binding_of_bindModule {symbol : SymbolId} {home name : String} {w after : Walk}
    (ran : e.bindImport symbol (.module_ home) .module_ w = (.ok name, after)) :
    Table.get? after.bindings (home, (e.program.symbol symbol).name) = some name := by
  rw [bindModule_apply, Prod.mk.injEq, Except.ok.injEq] at ran
  obtain ⟨rfl, rfl⟩ := ran
  apply (orderly_registerImport _ _ _).grows.bound
  rw [Walk.bindings_bind, Bindings.get?_bind_self, Walk.bind_fst]

/-- A new binding gets its import at once, since its name has no entry yet. -/
theorem keeps_bindModule (symbol : SymbolId) (home : String) (w : Walk) :
    Keeps (e.bindImport symbol (.module_ home) .module_) w := by
  let own := (e.program.symbol symbol).name
  have later := orderly_registerImport (w.bind home own).1 (.imported own (some home) .module_)
    (w.bind home own).2
  refine ⟨?_, fun value ran => ?_⟩ <;> rw [bindModule_apply]
  · refine ⟨(Walk.extends_bind w home own).trans later.grows.toExtends, ?_, ?_⟩
    · intro name node filled
      exact later.grows.filled name node (by rwa [Walk.registry_bind])
    · intro place name binding unbound held
      by_cases same : (home, own) = (place, name)
      · cases same
        have middle : Table.get? (w.bind home own).2.bindings (home, own) = some (w.bind home own).1 := by
          rw [Walk.bindings_bind, Bindings.get?_bind_self, Walk.bind_fst]
        have equal := later.grows.bound _ _ middle
        rw [held, Option.some.injEq] at equal
        subst equal
        have free : w.registry.has (w.bind home own).1 = false := by
          have fresh := (Bindings.bind_fresh w.registry.names unbound).1
          rw [← Registry.has_iff] at fresh
          simpa using fresh
        rw [registerImport_apply, Walk.registry_bind, free, Bool.not_false, Bool.true_or, if_pos rfl]
        exact Registry.filled_set_self _ _ _
      · refine later.grows.imports place name binding ?_ held
        rw [Walk.bindings_bind, Bindings.get?_bind_of_ne _ same, unbound]
  · have settled := later.settled () (by rw [registerImport_apply])
    exact (Walk.settled_of_same (Walk.registry_bind w home own)).trans settled

theorem orderly_bindImport (symbol : SymbolId) {origin : Origin} {scope : ImportScope}
    (outside : origin.scope? = some scope) :
    Extract.Orderly (e.bindImport symbol origin scope) := by
  have written (name : String) (node : Node) : Extract.Orderly (do
      registerImport name node
      pure name) :=
    orderly_bind (orderly_registerImport name _) fun _ => orderly_pure name
  cases origin with
  | lib =>
      cases outside
      exact orderly_bind (orderly_pure _) fun name => written name _
  | global =>
      cases outside
      exact orderly_bind (orderly_pure _) fun name => written name _
  | module_ home =>
      cases outside
      exact keeps_bindModule symbol home
  | own => cases outside

variable (ordered : e.Orderly)
include ordered

theorem orderly_visits : e.Visits Extract.Orderly :=
  { composes with
    visit := ordered.visit
    visitInline := ordered.visitInline
    visitNamed := fun _ _ _ _ => ordered.visitNamed _ _ }

theorem orderly_visitAll (types : List (Option TypeId)) : Extract.Orderly (e.visitAll types) :=
  (orderly_visits ordered).visitAll types

omit ordered in
theorem orderly_normalizeArguments (type : TypeId) (params : Slots SiteId) (types : List Node)
    (name : String) : Extract.Orderly (e.normalizeArguments type params types name) :=
  Visits.normalizeArguments composes.toThreads type params types name

omit ordered in
/-- Arguments are only dropped, at the end. -/
theorem prefix_of_trimDefaults (argumentIds : List Int) (params : List (Option SiteId))
    {types kept : List Node} (trimmed : e.trimDefaults argumentIds params types = .ok kept) :
    kept <+: types := by
  induction params generalizing types with
  | nil =>
      cases trimmed
      exact List.prefix_refl _
  | cons param earlier ih =>
      rw [trimDefaults] at trimmed
      cases asked : e.defaultTypeId param with
      | error fault =>
          rw [asked] at trimmed
          cases trimmed
      | ok default =>
          rw [asked] at trimmed
          simp only [bind, Except.bind] at trimmed
          split at trimmed
          · split at trimmed
            · exact (ih trimmed).trans (List.dropLast_prefix types)
            · cases trimmed
              exact List.prefix_refl _
          · cases trimmed
            exact List.prefix_refl _

omit ordered in
theorem of_normalizeArguments {type : TypeId} {sites : Slots SiteId} {nodes kept : List Node}
    {name : String} {w after : Walk}
    (ran : e.normalizeArguments type sites nodes name w = (.ok kept, after)) :
    after = w ∧ ∃ ids bounded, e.argumentIds (e.program.type type) = .ok ids ∧
      e.trimDefaults ids sites.slots.reverse bounded = .ok kept ∧
      bounded = (w.registry.parameterCount? name).elim nodes nodes.take := by
  obtain ⟨seen, same, got, ran⟩ := of_bind_ok ran
  cases got
  obtain ⟨ids, same, asked, ran⟩ := of_bind_ok ran
  rw [lift_apply, Prod.mk.injEq] at asked
  obtain ⟨asked, rfl⟩ := asked
  obtain ⟨slots, same, each, ran⟩ := of_bind_ok ran
  rw [lift_apply, Prod.mk.injEq] at each
  obtain ⟨each, rfl⟩ := each
  obtain rfl : slots = sites.slots := by
    cases sites with
    | none => cases each
    | some items => exact (Except.ok.inj each).symm
  rw [lift_apply, Prod.mk.injEq] at ran
  obtain ⟨trimmed, rfl⟩ := ran
  refine ⟨rfl, ids, _, asked, trimmed, ?_⟩
  cases w.registry.parameterCount? name <;> rfl

omit ordered in
/-- Where the number of parameters is known, there are no more arguments than that. -/
theorem of_normalizeArguments_ok {type : TypeId} {params : Slots SiteId} {types kept : List Node}
    {name : String} {w after : Walk}
    (ran : e.normalizeArguments type params types name w = (.ok kept, after)) :
    after = w ∧ kept <+: types ∧
      ∀ count, w.registry.parameterCount? name = some count → kept.length ≤ count := by
  obtain ⟨rfl, ids, bounded, -, trimmed, rfl⟩ := of_normalizeArguments ran
  have kept_prefix := prefix_of_trimDefaults _ _ trimmed
  refine ⟨rfl, ?_, ?_⟩
  · cases known : after.registry.parameterCount? name with
    | none => simpa [known] using kept_prefix
    | some count =>
        rw [known] at kept_prefix
        exact kept_prefix.trans (List.take_prefix _ _)
  · intro count known
    rw [known] at kept_prefix
    exact Nat.le_trans kept_prefix.length_le (List.length_take_le _ _)

theorem keeps_includeRef {w : Walk} {name : String} (known : w.registry.has name = true)
    (type : TypeId) (live : Option TypeId) : Keeps (e.includeRef type name live) w := by
  refine keeps_bind (orderly_visitAll ordered _ w) fun types visited _ grows => ?_
  refine keeps_bind (orderly_normalizeArguments _ _ _ _ visited) fun types final _ more => ?_
  refine keeps_bind ?_ fun ref after _ _ => orderly_pure _ after
  exact keeps_resolve (more.has (grows.has known)) types live

theorem orderly_makeRef (type : Option TypeId) (name : String) :
    Extract.Orderly (e.makeRef type name) := by
  intro w
  have body : Extract.Orderly (do
      let id ← present type
      let info := e.program.type id
      e.bodyOfType (if info.isReference then info.target.getD id else id)) :=
    orderly_bind (orderly_lift _) fun id => ordered.bodyOfType _
  refine keeps_bind (orderly_register name body w) fun _ registered ran _ => ?_
  refine keeps_bind (orderly_lift _ registered) fun id after _ grows => ?_
  exact keeps_includeRef ordered (grows.has (has_of_register ran)) id none

omit ordered in
theorem has_of_makeRef {type : Option TypeId} {name : String} {node : Node} {w after : Walk}
    (ordered : e.Orderly) (ran : e.makeRef type name w = (.ok node, after)) :
    after.registry.has name = true := by
  obtain ⟨_, registered, first, ran⟩ := of_bind_ok ran
  obtain ⟨id, same, got, ran⟩ := of_bind_ok ran
  have known := ((orderly_lift _ registered).result got).1.has (has_of_register first)
  exact ((keeps_includeRef ordered known id none).result ran).1.has known

theorem orderly_ensureNamed (type : Option TypeId) (name : String) :
    Extract.Orderly (e.ensureNamed type name) := by
  refine orderly_bind (orderly_isRegistered name) fun known => ?_
  split
  · exact orderly_pure ()
  · exact orderly_map _ (orderly_makeRef ordered type name)

theorem has_of_ensureNamed {type : Option TypeId} {name : String} {w after : Walk}
    (ran : e.ensureNamed type name w = (.ok (), after)) : after.registry.has name = true := by
  obtain ⟨known, same, asked, ran⟩ := of_bind_ok ran
  cases asked
  split at ran
  · rename_i known
    cases ran
    exact known
  · obtain ⟨node, made, built, ended⟩ := of_bind_ok ran
    cases ended
    exact has_of_makeRef ordered built

omit ordered in
theorem orderly_externalName (symbol : Option SymbolId) :
    Extract.Orderly (e.externalName symbol) := by
  unfold externalName
  dsimp only
  split
  · exact orderly_pure none
  · rename_i scope outside
    refine orderly_bind (orderly_lift _) fun symbol => ?_
    split
    · exact orderly_pure none
    · exact orderly_map _ (orderly_bindImport symbol outside)

theorem orderly_includeExternal (type : TypeId) : Extract.Orderly (e.includeExternal type) := by
  unfold includeExternal
  dsimp only
  split
  · exact orderly_pure none
  · split
    · exact orderly_pure none
    · rename_i scope outside
      split
      · split
        · exact (orderly_visits ordered).includeHidden type
        · exact orderly_pure none
      · split
        · exact orderly_pure none
        · intro w
          refine keeps_bind (orderly_bindImport _ outside w) fun name bound ran _ => ?_
          rw [map_eq]
          refine keeps_bind (keeps_includeRef ordered (has_of_bindImport ran) _ _) ?_
          exact fun node after _ _ => orderly_pure _ after

theorem orderly_makeAliasRef (type : TypeId) (name : String) :
    Extract.Orderly (e.makeAliasRef type name) := by
  unfold makeAliasRef
  dsimp only
  split
  · rename_i site _ _
    have reference (name : String) : Extract.Orderly (do
        let types ← e.visitAll (e.program.type type).aliasArguments.slots
        let types ← e.normalizeArguments type (e.program.site site).typeParameters types name
        pure (Node.ref { name, types })) := by
      refine orderly_bind (orderly_visitAll ordered _) fun types => ?_
      exact orderly_bind (orderly_normalizeArguments _ _ _ _) fun types => orderly_pure _
    refine orderly_bind (orderly_externalName _) fun bound => ?_
    split
    · exact orderly_bind (orderly_pure _) reference
    · refine orderly_bind (orderly_register name (ordered.bodyOfAlias _)) fun _ => ?_
      exact orderly_bind (orderly_pure name) reference
  · exact orderly_diagnose _

theorem orderly_includeReference (type : TypeId) : Extract.Orderly (e.includeReference type) := by
  refine orderly_bind (orderly_includeExternal ordered type) fun outside => ?_
  cases outside with
  | some node => exact orderly_pure node
  | none =>
      refine orderly_bind (orderly_lift _) fun symbol => ?_
      intro w
      refine keeps_bind (orderly_ensureNamed ordered _ _ w) fun _ after ran _ => ?_
      exact keeps_includeRef ordered (has_of_ensureNamed ordered ran) _ _

/-- A structural base is written under its name only when the name has no entry. -/
theorem orderly_includeBase (site : Option SiteId) : Extract.Orderly (e.includeBase site) := by
  refine orderly_bind (orderly_lift _) fun base => ?_
  refine orderly_bind ((orderly_visits ordered).visitPresent base) fun node => ?_
  split
  · exact orderly_pure _
  · refine orderly_bind (orderly_lift _) fun site => ?_
    split
    · exact orderly_pure _
    · rename_i name written
      split
      · exact orderly_pure _
      · intro w
        refine keeps_bind (orderly_isRegistered name w) fun known after asked _ => ?_
        cases asked
        split
        · rename_i fresh
          refine keeps_bind (keeps_set (fun node held => ?_) _) fun _ after _ _ => ?_
          · rw [Registry.has_of_get? held.1] at fresh
            cases fresh
          · exact orderly_pure _ after
        · exact orderly_pure _ w

omit ordered in
/-- A class is made of a shape, with static members and constructors behind the members of its
instances. -/
theorem of_includeClass_ok {type : TypeId} {w after : Walk} {node : Node}
    (ran : e.includeClass type w = (.ok node, after)) :
    ∃ heritage opened shape shaped exported statics written constructors,
      e.includeHeritage type w = (.ok heritage, opened) ∧
      e.includeShape type heritage opened = (.ok shape, shaped) ∧
      (∀ member ∈ exported, ∃ symbol, (e.program.type type).symbol = some symbol ∧
        (e.program.symbol symbol).exports.each = .ok exported) ∧
      exported.mapM e.includeStatic shaped = (.ok statics, written) ∧
      e.includeConstructors type written = (.ok constructors, after) ∧
      node = .classShape { shape with props := shape.props ++ statics.flatten ++ constructors }
        heritage.implemented := by
  obtain ⟨heritage, opened, first, ran⟩ := of_bind_ok ran
  obtain ⟨shape, shaped, second, ran⟩ := of_bind_ok ran
  cases owner : (e.program.type type).symbol with
  | none =>
      simp only [owner, pure_bind] at ran
      obtain ⟨statics, written, third, ran⟩ := of_bind_ok ran
      obtain ⟨constructors, _, fourth, ran⟩ := of_bind_ok ran
      cases ran
      exact ⟨heritage, opened, shape, shaped, [], statics, written, constructors, first, second, nofun,
        third, fourth, rfl⟩
  | some symbol =>
      simp only [owner] at ran
      obtain ⟨exported, same, asked, ran⟩ := of_bind_ok ran
      rw [lift_apply, Prod.mk.injEq] at asked
      obtain ⟨asked, rfl⟩ := asked
      obtain ⟨statics, written, third, ran⟩ := of_bind_ok ran
      obtain ⟨constructors, _, fourth, ran⟩ := of_bind_ok ran
      cases ran
      exact ⟨heritage, opened, shape, shaped, exported, statics, written, constructors, first, second,
        fun _ _ => ⟨symbol, rfl, asked⟩, third, fourth, rfl⟩

omit ordered in
/-- An object type that is not mapped is described as a class or as an interface. -/
theorem of_includeNamed_ok {type : TypeId} (flags : (e.program.type type).flags = [.object])
    (unmapped : (e.program.type type).hasObjectFlag .mapped = false) {w after : Walk} {node : Node}
    (ran : e.includeNamed type w = (.ok node, after)) :
    (e.program.type type).isClass = true ∧ e.includeClass type w = (.ok node, after) ∨
    (e.program.type type).isClass = false ∧ ∃ heritage between shape,
      e.includeHeritage type w = (.ok heritage, between) ∧
      e.includeShape type heritage between = (.ok shape, after) ∧ node = .interface shape := by
  have none : Terminal.ofFlags? (e.program.type type).flags = none := by
    rw [flags]
    decide
  have isObject : (e.program.type type).isObject = true := by
    rw [TypeInfo.isObject, TypeInfo.hasFlag, flags]
    decide
  have notMapped : (e.program.type type).isMapped = false := by
    rw [TypeInfo.isMapped, unmapped, Bool.and_false]
  obtain ⟨basic, start, first, ran⟩ := of_bind_ok ran
  simp only [includeBasic, none] at first
  cases first
  obtain ⟨object, later, second, ran⟩ := of_bind_ok ran
  simp only [includeObject, isObject, notMapped, Bool.not_true, Bool.false_eq_true, if_false] at second
  split at second
  · rename_i isClass
    rw [map_eq] at second
    obtain ⟨_, _, made, second⟩ := of_bind_ok second
    cases second
    cases ran
    exact .inl ⟨isClass, made⟩
  · rename_i notClass
    obtain ⟨heritage, between, opened, second⟩ := of_bind_ok second
    obtain ⟨shape, shaped, made, second⟩ := of_bind_ok second
    cases second
    cases ran
    exact .inr ⟨Bool.eq_false_iff.mpr notClass, heritage, between, shape, opened, made, rfl⟩

theorem orderly_ways : e.Ways Extract.Orderly :=
  { orderly_visits ordered with
    reference := fun type _ => orderly_includeReference ordered type
    base := fun _ _ _ site _ => orderly_includeBase ordered site }

theorem orderly_includeKnown (type : TypeId) (name : Option String) :
    Extract.Orderly (e.includeKnown type name) :=
  (orderly_ways ordered).includeKnown type name (orderly_includeExternal ordered type)
    (fun given _ => orderly_makeAliasRef ordered type given)
    fun given _ _ _ _ => orderly_makeRef ordered (some type) given

theorem orderly_includeType (type : TypeId) : Extract.Orderly (e.includeType type) :=
  (orderly_ways ordered).includeType type (orderly_includeKnown ordered type _)

end Steps

@[simp] theorem program_within (e : Engine) (depth : Nat) : (e.within depth).program = e.program := by
  cases depth <;> rfl

@[simp] theorem settings_within (e : Engine) (depth : Nat) :
    (e.within depth).settings = e.settings := by
  cases depth <;> rfl

@[simp] theorem program_withEntries (e : Engine) (depth entries : Nat) :
    (e.withEntries depth entries).program = e.program := by
  cases entries <;> rfl

@[simp] theorem settings_withEntries (e : Engine) (depth entries : Nat) :
    (e.withEntries depth entries).settings = e.settings := by
  cases entries <;> rfl

@[simp] theorem libraries_within (e : Engine) (depth : Nat) :
    (e.within depth).libraries = e.libraries := by
  cases depth <;> rfl

@[simp] theorem libraries_withEntries (e : Engine) (depth entries : Nat) :
    (e.withEntries depth entries).libraries = e.libraries := by
  cases entries <;> rfl

@[simp] theorem program_start (p : Program) (settings : ExtractionSettings)
    (libraries : LibrarySettings) : (start p settings libraries).program = p := by
  simp [start]

@[simp] theorem settings_start (p : Program) (settings : ExtractionSettings)
    (libraries : LibrarySettings) : (start p settings libraries).settings = settings := by
  simp [start]

@[simp] theorem libraries_start (p : Program) (settings : ExtractionSettings)
    (libraries : LibrarySettings) : (start p settings libraries).libraries = libraries := by
  simp [start]

/-- An engine that stops at once. -/
theorem orderly_bare (p : Program) (settings : ExtractionSettings) (libraries : LibrarySettings) :
    Orderly { program := p, settings, libraries } :=
  ⟨fun _ => orderly_fail _, fun _ _ => orderly_fail _, fun _ => orderly_fail _,
    fun _ => orderly_fail _, fun _ => orderly_fail _⟩

theorem orderly_within {e : Engine} (ordered : e.Orderly) (depth : Nat) : (e.within depth).Orderly := by
  induction depth with
  | zero => exact ordered
  | succ depth ih =>
      exact ⟨orderly_includeType ih, orderly_includeKnown ih, (orderly_ways ih).includeInline,
        ordered.bodyOfType, ordered.bodyOfAlias⟩

theorem orderly_withEntries {e : Engine} (ordered : e.Orderly) (depth entries : Nat) :
    (e.withEntries depth entries).Orderly := by
  induction entries with
  | zero => exact ordered
  | succ entries ih =>
      have inner := orderly_within ih depth
      exact ⟨ordered.visit, ordered.visitNamed, ordered.visitInline, (orderly_ways inner).includeNamed,
        (orderly_ways inner).aliasBody⟩

theorem orderly_start (p : Program) (settings : ExtractionSettings) (libraries : LibrarySettings) :
    (start p settings libraries).Orderly :=
  orderly_within (orderly_withEntries (orderly_bare p settings libraries) _ _) _

/-- Registered names keep their order, filled entries stay, only the innermost scope takes more
names, and reserved names stand for themselves. A call that succeeds leaves no name reserved that
was not reserved before. -/
theorem includeType_disciplined (p : Program) (settings : ExtractionSettings)
    (libraries : LibrarySettings) (depth entries levels : Nat) {w after : Walk}
    {result : Except Fault Node} (reached : w.Reachable) (type : TypeId)
    (ran : ((({ program := p, settings, libraries } : Engine).withEntries depth entries).within
      levels).includeType type w = (result, after)) :
    w.registry.names <+: after.registry.names ∧
    (∀ name node, w.registry.Filled name node → after.registry.Filled name node) ∧
    ScopesGrow w.scopes after.scopes ∧
    (∀ name declared, Table.get? w.localNames name = some declared →
      ∃ more, Table.get? after.localNames name = some (declared ++ more)) ∧
    after.registry.Bare ∧
    ∀ node, result = .ok node → ∀ name, after.registry.isPlaceholder name = true →
      w.registry.isPlaceholder name = true := by
  have ordered := orderly_within
    (orderly_withEntries (orderly_bare p settings libraries) depth entries) levels
  have keeps := orderly_includeType ordered type w
  have grows := keeps.grows
  have settled := keeps.settled
  rw [ran] at grows settled
  refine ⟨grows.names, grows.filled, grows.scopes, grows.locals, ?_, settled⟩
  exact (grows.reachable reached).bare

def linkedProgram : Program :=
  (do
    let link ← Build.interface { header := { name := "Link" } }
    Build.addMembers link [("next", .plain (some link))] : Build TypeId).run
      (Program.start "src/index.ts") |>.2

theorem names_linked :
    ((start linkedProgram {} {}).includeType ⟨15⟩ {}).2.registry.names = ["Link"] := by
  decide +kernel

theorem includeType_linked : ∃ result after,
    (start linkedProgram {} {}).includeType ⟨15⟩ {} = (result, after) ∧
      ({} : Walk).Reachable ∧ after.registry.names = ["Link"] ∧ after.registry.Bare ∧
      ∀ node, result = .ok node → ∀ name, after.registry.isPlaceholder name = false := by
  rcases ran : (start linkedProgram {} {}).includeType ⟨15⟩ {} with ⟨result, after⟩
  obtain ⟨_, _, _, _, bare, settled⟩ := includeType_disciplined linkedProgram {} {}
    (depthBound linkedProgram) (entryBound linkedProgram) (depthBound linkedProgram)
    (Walk.Reachable.fresh []) ⟨15⟩ ran
  have names := names_linked
  rw [ran] at names
  refine ⟨result, after, rfl, Walk.Reachable.fresh [], names, bare, ?_⟩
  intro node succeeded name
  cases reserved : after.registry.isPlaceholder name with
  | false => rfl
  | true =>
      have before := settled node succeeded name reserved
      cases before

end Engine

end TypeAtlas
