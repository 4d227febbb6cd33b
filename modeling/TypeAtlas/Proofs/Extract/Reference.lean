import TypeAtlas.Proofs.Extract.Advance
import TypeAtlas.Proofs.Program.Calls

/-!
References to named types. A type of the program goes by its own name, a type from outside by the name
that it is imported under.
-/

namespace TypeAtlas

namespace Walk

/-- A moment of a run and a later one. A new binding numbers the name if it has to, and keeps clear of
the names registered before. -/
structure Later (w after : Walk) : Prop where
  names : w.registry.names <+: after.registry.names
  bound : ∀ key binding, Table.get? w.bindings key = some binding →
    Table.get? after.bindings key = some binding
  fresh : ∀ key binding, Table.get? w.bindings key = none →
    Table.get? after.bindings key = some binding → binding ∉ w.registry.names
  formed : ∀ home name binding, Table.get? w.bindings (home, name) = none →
    Table.get? after.bindings (home, name) = some binding → ∃ n, binding = Bindings.candidate name n

theorem Later.of_bindings {w after : Walk} (names : w.registry.names <+: after.registry.names)
    (same : after.bindings = w.bindings) : w.Later after where
  names := names
  bound key binding held := by rwa [same]
  fresh key binding unbound held := by rw [same, unbound] at held; cases held
  formed home name binding unbound held := by rw [same, unbound] at held; cases held

theorem Later.of_same {w after : Walk} (registry : after.registry = w.registry)
    (bindings : after.bindings = w.bindings) : w.Later after :=
  .of_bindings (registry ▸ List.prefix_refl _) bindings

theorem Later.refl (w : Walk) : w.Later w := .of_bindings (List.prefix_refl _) rfl

theorem Later.trans {w between after : Walk} (first : w.Later between) (second : between.Later after) :
    w.Later after where
  names := first.names.trans second.names
  bound key binding held := second.bound key binding (first.bound key binding held)
  fresh key binding unbound held member := by
    cases middle : Table.get? between.bindings key with
    | none => exact second.fresh key binding middle held (first.names.subset member)
    | some earlier =>
        rw [second.bound key earlier middle, Option.some.injEq] at held
        subst held
        exact first.fresh key earlier unbound middle member
  formed home name binding unbound held := by
    cases middle : Table.get? between.bindings (home, name) with
    | none => exact second.formed home name binding middle held
    | some earlier =>
        rw [second.bound _ earlier middle, Option.some.injEq] at held
        subst held
        exact first.formed home name earlier unbound middle

theorem later_bind (w : Walk) (home name : String) : w.Later (w.bind home name).2 := by
  have extended := extends_bind w home name
  refine ⟨extended.names, extended.bound, extended.fresh, fun other own binding unbound held => ?_⟩
  rw [bindings_bind] at held
  by_cases same : (home, name) = (other, own)
  · cases same
    rw [Bindings.bind_of_unbound _ unbound, Table.get?_put_self, Option.some.injEq] at held
    exact held ▸ Bindings.firstFree_eq_candidate _ name
  · rw [Bindings.get?_bind_of_ne _ same, unbound] at held
    cases held

end Walk

namespace Engine

open Extract

variable {e : Engine}

theorem name_of_includeRef {type : TypeId} {name : String} {live : Option TypeId} {w after : Walk}
    {node : Node} (ran : e.includeRef type name live w = (.ok node, after)) :
    ∃ r, node = .ref r ∧ r.name = name := by
  obtain ⟨types, visited, _, ran⟩ := of_bind_ok ran
  obtain ⟨kept, normal, _, ran⟩ := of_bind_ok ran
  obtain ⟨r, resolved, made, ran⟩ := of_bind_ok ran
  cases made
  cases ran
  exact ⟨_, rfl, rfl⟩

/-- A named type of the program itself. -/
structure Own (e : Engine) (type : TypeId) (name : String) : Prop where
  plain : (e.program.type type).keyofOperand? = none
  declared : (e.program.type type).isTypeParameter = false
  unaliased : (e.program.type type).alias? = none
  named : e.nameOf (e.program.type type) = some name
  usable : e.isAnonymous name = false
  object : (e.program.type type).isAnonymousObject = false
  inside : (e.originOf (e.program.type type).symbol).scope? = none

/-- A type that goes by the name of a symbol from outside: its own or that of an alias. -/
structure Outside (e : Engine) (type : TypeId) (symbol : SymbolId) : Prop where
  plain : (e.program.type type).keyofOperand? = none
  declared : (e.program.type type).isTypeParameter = false
  usable : e.isAnonymous (e.program.symbol symbol).name = false
  known : (e.program.type type).alias? = none ∧ (e.program.type type).symbol = some symbol ∧
      (e.program.type type).isAnonymousObject = false ∨
    (e.program.type type).alias? = some symbol ∧ (e.program.type type).symbol ≠ some symbol ∧
      (e.program.firstDeclaration symbol).isSome = true

theorem nonempty_of_usable {name : String} (usable : e.isAnonymous name = false) :
    name.isEmpty = false := by
  unfold isAnonymous at usable
  rw [Bool.or_eq_false_iff] at usable
  exact usable.1

theorem includeExternal_of_inside {type : TypeId}
    (inside : (e.originOf (e.program.type type).symbol).scope? = none) (w : Walk) :
    e.includeExternal type w = (.ok none, w) := by
  unfold includeExternal
  cases held : (e.program.type type).symbol with
  | none => rfl
  | some symbol =>
      rw [held] at inside
      simp only [inside, pure_apply]

theorem Own.includeType_eq {type : TypeId} {name : String} (own : e.Own type name) (w : Walk) :
    e.includeType type w = e.makeRef (some type) name w := by
  have outside := includeExternal_of_inside own.inside w
  unfold includeType
  simp only [own.plain, own.named]
  unfold includeKnown
  simp only [own.declared, nonempty_of_usable own.usable, own.unaliased, Option.isSome_none,
    Bool.false_and, Bool.false_eq_true, if_false]
  rw [bind_ok outside]
  simp only [own.usable, own.object, Bool.or_self, Bool.false_eq_true, if_false]

/-- What the entry of a declared type is built from: an instantiation is registered as the type it was
made from. -/
def entryType (e : Engine) (type : TypeId) : TypeId :=
  let info := e.program.type type
  if info.isReference then info.target.getD type else type

theorem registered_of_makeRef (ordered : e.Orderly) {type : TypeId} {name : String} {w after : Walk}
    {node : Node} (ran : e.makeRef (some type) name w = (.ok node, after)) :
    (∃ r, node = .ref r ∧ r.name = name) ∧
      (w.registry.has name = false → ∃ start body built,
        e.bodyOfType (e.entryType type) start = (.ok body, built) ∧
          after.registry.Filled name body) := by
  obtain ⟨_, registered, first, ran⟩ := of_bind_ok ran
  obtain ⟨id, same, got, ran⟩ := of_bind_ok ran
  cases got
  refine ⟨name_of_includeRef ran, fun unknown => ?_⟩
  have grows := (keeps_includeRef ordered (has_of_register first) type none).grows
  rw [ran] at grows
  obtain ⟨known, between, asked, first⟩ := of_bind_ok first
  cases asked
  rw [unknown, if_neg Bool.false_ne_true] at first
  obtain ⟨inner, entered, rfl⟩ := of_inScope_ok first
  obtain ⟨_, reserved, opened, entered⟩ := of_bind_ok entered
  obtain ⟨body, built, made, entered⟩ := of_bind_ok entered
  cases entered
  obtain ⟨id, start, got, made⟩ := of_bind_ok made
  cases got
  refine ⟨_, body, built, made, grows.filled name body ?_⟩
  rw [Walk.registry_closeScope]
  exact Registry.filled_set_self built.registry name body

theorem externalName_eq {symbol : SymbolId} {scope : ImportScope}
    (outside : (e.originOf symbol).scope? = some scope)
    (usable : e.isAnonymous (e.program.symbol symbol).name = false) :
    e.externalName (some symbol) = some <$> e.bindImport symbol (e.originOf symbol) scope := by
  have step : e.externalName (some symbol) = (do
      if e.isAnonymous (e.program.symbol symbol).name then pure none
      else some <$> e.bindImport symbol (e.originOf symbol) scope) := by
    unfold externalName
    simp only [outside]
    rfl
  rw [step, usable, if_neg Bool.false_ne_true]

theorem makeAliasRef_of_includeType {type : TypeId} {symbol : SymbolId}
    (plain : (e.program.type type).keyofOperand? = none)
    (declared : (e.program.type type).isTypeParameter = false)
    (known : (e.program.type type).alias? = some symbol)
    (distinct : (e.program.type type).symbol ≠ some symbol)
    (usable : e.isAnonymous (e.program.symbol symbol).name = false) {w after : Walk} {node : Node}
    (ran : e.includeType type w = (.ok node, after)) :
    e.makeAliasRef type (e.program.symbol symbol).name w = (.ok node, after) := by
  have nonempty := nonempty_of_usable usable
  have named : e.nameOf (e.program.type type) = some (e.program.symbol symbol).name := by
    unfold nameOf
    simp only [known, Option.map_some, nonempty, Bool.false_eq_true, if_false]
  have other : (some symbol != (e.program.type type).symbol) = true := by
    simpa using Ne.symm distinct
  unfold includeType at ran
  simp only [plain, named] at ran
  unfold includeKnown at ran
  simp only [declared, nonempty, known, Option.isSome_some, other, Bool.and_self, Bool.false_eq_true,
    if_false, if_true] at ran
  exact ran

/-- A type from outside is bound first, and nothing is written over after that. -/
theorem Outside.bound_of_includeType (ordered : e.Orderly) {type : TypeId} {symbol : SymbolId}
    {scope : ImportScope} (outside : e.Outside type symbol)
    (origin : (e.originOf symbol).scope? = some scope) {w after : Walk} {node : Node}
    (ran : e.includeType type w = (.ok node, after)) :
    ∃ r middle, node = .ref r ∧
      e.bindImport symbol (e.originOf symbol) scope w = (.ok r.name, middle) ∧
        middle.Grows after := by
  rcases outside.known with ⟨unaliased, own, object⟩ | ⟨aliased, distinct, declared⟩
  · have nonempty := nonempty_of_usable outside.usable
    have name : e.nameOf (e.program.type type) = some (e.program.symbol symbol).name := by
      unfold nameOf
      rw [unaliased, own]
      rfl
    unfold includeType at ran
    simp only [outside.plain] at ran
    unfold includeKnown at ran
    simp only [outside.declared, name, nonempty, unaliased, Option.isSome_none, Bool.false_and,
      Bool.false_eq_true, if_false] at ran
    obtain ⟨found, between, asked, ran⟩ := of_bind_ok ran
    have external : e.includeExternal type = (do
        let name ← e.bindImport symbol (e.originOf symbol) scope
        let live := if scope = .global then none else some type
        some <$> e.includeRef type name live) := by
      unfold includeExternal
      simp only [own, origin, outside.usable, object, Bool.false_eq_true, if_false, Bool.and_false]
    rw [external] at asked
    obtain ⟨bound, middle, first, asked⟩ := of_bind_ok asked
    rw [map_eq] at asked
    obtain ⟨made, final, visited, ended⟩ := of_bind_ok asked
    cases ended
    cases ran
    obtain ⟨r, rfl, rfl⟩ := name_of_includeRef visited
    refine ⟨r, middle, rfl, first, ?_⟩
    exact ((keeps_includeRef ordered (has_of_bindImport first) _ _).result visited).1
  · have ran := makeAliasRef_of_includeType outside.plain outside.declared aliased distinct outside.usable ran
    unfold makeAliasRef at ran
    obtain ⟨site, declared⟩ := Option.isSome_iff_exists.mp declared
    simp only [aliased, declared, externalName_eq origin outside.usable] at ran
    obtain ⟨found, middle, asked, ran⟩ := of_bind_ok ran
    rw [map_eq] at asked
    obtain ⟨bound, final, first, ended⟩ := of_bind_ok asked
    cases ended
    obtain ⟨_, same, got, ran⟩ := of_bind_ok ran
    cases got
    obtain ⟨types, visited, wrote, ran⟩ := of_bind_ok ran
    obtain ⟨kept, normal, trimmed, ran⟩ := of_bind_ok ran
    cases ran
    refine ⟨_, middle, rfl, first, ?_⟩
    have grows := ((orderly_visitAll ordered _ _).result wrote).1
    exact grows.trans ((orderly_normalizeArguments _ _ _ _ _).result trimmed).1
def inner (p : Program) (settings : ExtractionSettings) (libraries : LibrarySettings)
    (depth entries levels : Nat) : Engine :=
  (({ program := p, settings, libraries } : Engine).withEntries depth entries).within levels

theorem orderly_inner (p : Program) (settings : ExtractionSettings) (libraries : LibrarySettings)
    (depth entries levels : Nat) : (inner p settings libraries depth entries levels).Orderly :=
  orderly_within (orderly_withEntries (orderly_bare p settings libraries) depth entries) levels

def importedAs? (e : Engine) (w : Walk) (symbol : SymbolId) : Option String :=
  match e.originOf (some symbol) with
  | .lib => some (e.program.symbol symbol).name
  | .global => some (e.program.globalName symbol)
  | .module_ home => Table.get? w.bindings (home, (e.program.symbol symbol).name)
  | .own => none

def importOf (e : Engine) (symbol : SymbolId) (scope : ImportScope) : Node :=
  .imported (e.program.symbol symbol).name (e.originOf (some symbol)).module? scope

theorem importedAs?_later {w after : Walk} (bound : ∀ key binding,
      Table.get? w.bindings key = some binding → Table.get? after.bindings key = some binding)
    {symbol : SymbolId} {name : String} (known : e.importedAs? w symbol = some name) :
    e.importedAs? after symbol = some name := by
  unfold importedAs? at known ⊢
  split at known
  · exact known
  · exact known
  · exact bound _ name known
  · cases known

theorem importedAs?_of_importName {symbol : SymbolId} {scope : ImportScope}
    (outside : (e.originOf (some symbol)).scope? = some scope) {w after : Walk} {name : String}
    (ran : e.importName symbol (e.originOf (some symbol)) scope w = (.ok name, after)) :
    e.importedAs? after symbol = some name := by
  unfold importedAs?
  cases origin : e.originOf (some symbol) with
  | own => rw [origin] at outside; cases outside
  | lib =>
      rw [origin] at outside
      cases outside
      cases ran
      rfl
  | global =>
      rw [origin] at outside
      cases outside
      cases ran
      rfl
  | module_ home =>
      rw [origin] at outside ran
      cases outside
      have bound : (.ok (w.bind home (e.program.symbol symbol).name).1,
          (w.bind home (e.program.symbol symbol).name).2) = ((.ok name : Except Fault String), after) :=
        ran
      rw [Prod.mk.injEq, Except.ok.injEq] at bound
      obtain ⟨rfl, rfl⟩ := bound
      dsimp only
      rw [Walk.bindings_bind, Bindings.get?_bind_self, Walk.bind_fst]

theorem importedAs?_of_bindImport {symbol : SymbolId} {scope : ImportScope}
    (outside : (e.originOf (some symbol)).scope? = some scope) {w after : Walk} {name : String}
    (ran : e.bindImport symbol (e.originOf (some symbol)) scope w = (.ok name, after)) :
    e.importedAs? after symbol = some name := by
  obtain ⟨found, between, named, ran⟩ := of_bind_ok ran
  obtain ⟨_, written, registered, ran⟩ := of_bind_ok ran
  cases ran
  refine importedAs?_later (fun key binding held => ?_) (importedAs?_of_importName outside named)
  rw [registerImport_apply] at registered
  cases registered
  split <;> exact held

theorem importName_of_importedAs? {symbol : SymbolId} {scope : ImportScope}
    (outside : (e.originOf (some symbol)).scope? = some scope) {w : Walk} {name : String}
    (known : e.importedAs? w symbol = some name) :
    ∃ after, e.importName symbol (e.originOf (some symbol)) scope w = (.ok name, after) := by
  unfold importedAs? at known
  cases origin : e.originOf (some symbol) with
  | own => rw [origin] at outside; cases outside
  | lib =>
      rw [origin] at outside known
      cases outside
      cases known
      exact ⟨w, rfl⟩
  | global =>
      rw [origin] at outside known
      cases outside
      cases known
      exact ⟨w, rfl⟩
  | module_ home =>
      rw [origin] at outside known
      cases outside
      refine ⟨(w.bind home (e.program.symbol symbol).name).2, ?_⟩
      have same : (w.bind home (e.program.symbol symbol).name).1 = name := by
        rw [Walk.bind_fst, Bindings.bind_of_bound _ known]
      rw [← same]
      rfl

end Engine

end TypeAtlas
