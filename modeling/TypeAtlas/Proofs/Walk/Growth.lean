import TypeAtlas.Extract.Run
import TypeAtlas.Proofs.Binding
import TypeAtlas.Proofs.Steps

/-!
The steps of a walk, one equation each, and what a walk never takes back: registered names, filled entries
and declared names. Each write of the extractor is one of a few operations on a walk, and each of them lets
it grow.
-/

namespace TypeAtlas.Extract

variable {α : Type}

@[simp] theorem fail_apply (fault : Fault) (w : Walk) :
    (fail fault : Extract α) w = (.error fault, w) := rfl

@[simp] theorem diagnose_apply (d : Diagnostic) (w : Walk) :
    (diagnose d : Extract α) w = (.error (.diagnostic d), w) := rfl

@[simp] theorem isRegistered_apply (name : String) (w : Walk) :
    isRegistered name w = (.ok (w.registry.has name), w) := rfl

@[simp] theorem set_apply (name : String) (node : Node) (w : Walk) :
    set name node w = (.ok (), w.set name node) := rfl

@[simp] theorem reserve_apply (name : String) (w : Walk) :
    reserve name w = (.ok (), w.reserve name) := rfl

@[simp] theorem declareLocal_apply (name : String) (w : Walk) :
    declareLocal name w = (.ok (), w.declareLocal name) := rfl

@[simp] theorem emit_apply (event : Event) (w : Walk) :
    emit event w = (.ok (), w.emit event) := rfl

theorem inScope_apply (name : String) (step : Extract α) (w : Walk) :
    inScope name step w = ((step w.openScope).1, (step w.openScope).2.closeScope name) := rfl

theorem of_inScope_ok {name : String} {step : Extract α} {w after : Walk} {value : α}
    (ran : inScope name step w = (.ok value, after)) :
    ∃ final, step w.openScope = (.ok value, final) ∧ final.closeScope name = after := by
  rw [inScope_apply, Prod.mk.injEq] at ran
  exact ⟨(step w.openScope).2, Prod.ext ran.1 rfl, ran.2⟩

theorem resolve_apply (name : String) (types : List Node) (live : Option TypeId) (w : Walk) :
    resolve name types live w = (.ok { name, types, live }, w.reserve name) := rfl

end TypeAtlas.Extract

namespace TypeAtlas

theorem of_isOk {α : Type} {ran : Except Fault α × Walk} (succeeded : ran.1.isOk = true) :
    ∃ result, ran = (.ok result, ran.2) := by
  rcases ran with ⟨fault | result, after⟩
  · cases succeeded
  · exact ⟨result, rfl⟩

namespace Registry

/-- An entry with its body, as against a reserved name. -/
def Filled (r : Registry) (name : String) (node : Node) : Prop :=
  r.get? name = some node ∧ r.isPlaceholder name = false

/-- Every reserved name stands for nothing but itself. -/
def Bare (r : Registry) : Prop :=
  ∀ name, r.isPlaceholder name = true → r.get? name = some (placeholder name)

theorem has_iff (r : Registry) (name : String) : r.has name = true ↔ name ∈ r.names :=
  Table.has_iff r.entries name

theorem has_of_get? {r : Registry} {name : String} {node : Node} (found : r.get? name = some node) :
    r.has name = true := by
  rw [Registry.get?] at found
  rw [Registry.has, Table.has, found]
  rfl

@[simp] theorem isPlaceholder_set (r : Registry) (name other : String) (node : Node) :
    (r.set name node).isPlaceholder other = (r.isPlaceholder other && other ≠ name) := by
  simp [isPlaceholder, set, List.mem_filter]

@[simp] theorem get?_set_self (r : Registry) (name : String) (node : Node) :
    (r.set name node).get? name = some node :=
  Table.get?_put_self r.entries name node

theorem get?_set_of_ne (r : Registry) {name other : String} (node : Node) (distinct : name ≠ other) :
    (r.set name node).get? other = r.get? other :=
  Table.get?_put_of_ne r.entries node distinct

theorem names_set (r : Registry) (name : String) (node : Node) :
    (r.set name node).names = if name ∈ r.names then r.names else r.names ++ [name] :=
  Table.keys_put r.entries name node

theorem reserve_of_has {r : Registry} {name : String} (known : r.has name = true) :
    r.reserve name = r := by
  rw [reserve, if_pos known]

theorem get?_reserve_of_ne (r : Registry) {name other : String} (distinct : name ≠ other) :
    (r.reserve name).get? other = r.get? other := by
  unfold reserve
  split
  · rfl
  · exact Table.get?_put_of_ne r.entries _ distinct

theorem names_reserve (r : Registry) (name : String) :
    (r.reserve name).names = if name ∈ r.names then r.names else r.names ++ [name] := by
  unfold reserve
  split
  · rename_i known
    rw [if_pos ((r.has_iff name).mp known)]
  · exact Table.keys_put r.entries name _

theorem isPlaceholder_reserve {r : Registry} {name : String} (fresh : r.has name = false)
    (other : String) :
    (r.reserve name).isPlaceholder other = (other == name || r.isPlaceholder other) := by
  rw [reserve, if_neg (by simp [fresh])]
  simp only [isPlaceholder, List.mem_cons, Bool.decide_or]
  rfl

theorem get?_reserve_self {r : Registry} {name : String} (fresh : r.has name = false) :
    (r.reserve name).get? name = some (placeholder name) := by
  rw [reserve, if_neg (by simp [fresh])]
  exact Table.get?_put_self r.entries name _

theorem has_reserve_self (r : Registry) (name : String) : (r.reserve name).has name = true := by
  cases known : r.has name with
  | true => rwa [reserve_of_has known]
  | false => exact has_of_get? (get?_reserve_self known)

theorem has_set_self (r : Registry) (name : String) (node : Node) :
    (r.set name node).has name = true :=
  has_of_get? (get?_set_self r name node)

theorem filled_set_self (r : Registry) (name : String) (node : Node) :
    (r.set name node).Filled name node := by
  refine ⟨get?_set_self r name node, ?_⟩
  simp

theorem filled_of_reserve {r : Registry} {name other : String} {node : Node}
    (filled : (r.reserve name).Filled other node) : r.Filled other node := by
  cases known : r.has name with
  | true => rwa [reserve_of_has known] at filled
  | false =>
      obtain ⟨found, unreserved⟩ := filled
      rw [isPlaceholder_reserve known, Bool.or_eq_false_iff] at unreserved
      have distinct : name ≠ other := by
        rintro rfl
        simp at unreserved
      exact ⟨(get?_reserve_of_ne r distinct).symm.trans found, unreserved.2⟩

theorem filled_of_set {r : Registry} {name other : String} {node held : Node}
    (filled : (r.set name node).Filled other held) :
    name = other ∧ node = held ∨ name ≠ other ∧ r.Filled other held := by
  obtain ⟨found, unreserved⟩ := filled
  by_cases same : name = other
  · subst same
    rw [get?_set_self, Option.some.injEq] at found
    exact Or.inl ⟨rfl, found⟩
  · right
    rw [isPlaceholder_set, Bool.and_eq_false_iff] at unreserved
    refine ⟨same, (get?_set_of_ne r node same).symm.trans found, ?_⟩
    rcases unreserved with unreserved | equal
    · exact unreserved
    · simp [Ne.symm same] at equal

theorem filled_set_of_ne {r : Registry} {name other : String} {held : Node} (node : Node)
    (distinct : name ≠ other) (filled : r.Filled other held) :
    (r.set name node).Filled other held := by
  refine ⟨?_, ?_⟩
  · rw [get?_set_of_ne r node distinct]
    exact filled.1
  · rw [isPlaceholder_set, filled.2]
    rfl

theorem filled_reserve {r : Registry} {other : String} {node : Node} (filled : r.Filled other node)
    (name : String) : (r.reserve name).Filled other node := by
  cases known : r.has name with
  | true => rwa [reserve_of_has known]
  | false =>
      have distinct : name ≠ other := by
        rintro rfl
        rw [has_of_get? filled.1] at known
        cases known
      refine ⟨?_, ?_⟩
      · rw [get?_reserve_of_ne r distinct]
        exact filled.1
      · rw [isPlaceholder_reserve known, filled.2]
        simp [Ne.symm distinct]

theorem bare_set {r : Registry} (bare : r.Bare) (name : String) (node : Node) :
    (r.set name node).Bare := by
  intro other reserved
  simp only [isPlaceholder_set, Bool.and_eq_true, decide_eq_true_eq] at reserved
  rw [get?_set_of_ne r node (Ne.symm reserved.2)]
  exact bare other reserved.1

theorem bare_reserve {r : Registry} (bare : r.Bare) (name : String) : (r.reserve name).Bare := by
  cases known : r.has name with
  | true => rwa [reserve_of_has known]
  | false =>
      intro other reserved
      by_cases same : other = name
      · subst same
        exact get?_reserve_self known
      · rw [get?_reserve_of_ne r (Ne.symm same)]
        rw [isPlaceholder_reserve known] at reserved
        exact bare other (by simpa [same] using reserved)

end Registry

/-- Innermost first: only the innermost scope takes more names. -/
def ScopesGrow : List (List String) → List (List String) → Prop
  | [], after => after = []
  | scope :: outer, after => ∃ declared, after = (scope ++ declared) :: outer

theorem ScopesGrow.refl (scopes : List (List String)) : ScopesGrow scopes scopes := by
  cases scopes with
  | nil => rfl
  | cons scope outer => exact ⟨[], by rw [List.append_nil]⟩

theorem ScopesGrow.trans {scopes between after : List (List String)}
    (first : ScopesGrow scopes between) (second : ScopesGrow between after) :
    ScopesGrow scopes after := by
  cases scopes with
  | nil =>
      rw [ScopesGrow] at first
      subst first
      exact second
  | cons scope outer =>
      obtain ⟨declared, rfl⟩ := first
      obtain ⟨more, rfl⟩ := second
      exact ⟨declared ++ more, by rw [List.append_assoc]⟩

namespace Walk

/-- The walks that an extraction comes through: it writes to a walk in no other way. -/
inductive Reachable : Walk → Prop
  | fresh (bindings : Bindings) : Reachable { bindings }
  | set {w : Walk} (name : String) (node : Node) : w.Reachable → (w.set name node).Reachable
  | reserve {w : Walk} (name : String) : w.Reachable → (w.reserve name).Reachable
  | declareLocal {w : Walk} (name : String) : w.Reachable → (w.declareLocal name).Reachable
  | openScope {w : Walk} : w.Reachable → w.openScope.Reachable
  | closeScope {w : Walk} (name : String) : w.Reachable → (w.closeScope name).Reachable
  | bind {w : Walk} (home name : String) : w.Reachable → (w.bind home name).2.Reachable
  | emit {w : Walk} (event : Event) : w.Reachable → (w.emit event).Reachable
  | count {w : Walk} : w.Reachable → Reachable { w with unidentified := w.unidentified + 1 }

/-- What no step of an extraction takes back. -/
structure Extends (w after : Walk) : Prop where
  names : w.registry.names <+: after.registry.names
  scopes : ScopesGrow w.scopes after.scopes
  locals : ∀ name declared, Table.get? w.localNames name = some declared →
    ∃ more, Table.get? after.localNames name = some (declared ++ more)
  lasting : ∀ name node, w.registry.Filled name node → ∃ other, after.registry.Filled name other
  bound : ∀ key binding, Table.get? w.bindings key = some binding →
    Table.get? after.bindings key = some binding
  fresh : ∀ key binding, Table.get? w.bindings key = none →
    Table.get? after.bindings key = some binding → binding ∉ w.registry.names
  reachable : w.Reachable → after.Reachable

/-- What no step from type to type takes back: filled entries stay as well, and a new binding has
its import. -/
structure Grows (w after : Walk) : Prop extends w.Extends after where
  filled : ∀ name node, w.registry.Filled name node → after.registry.Filled name node
  imports : ∀ home name binding, Table.get? w.bindings (home, name) = none →
    Table.get? after.bindings (home, name) = some binding →
    after.registry.Filled binding (.imported name (some home) .module_)

def Settled (w after : Walk) : Prop :=
  ∀ name, after.registry.isPlaceholder name = true → w.registry.isPlaceholder name = true

theorem Extends.refl (w : Walk) : w.Extends w :=
  { names := List.prefix_refl _
    scopes := ScopesGrow.refl _
    locals := fun _ _ held => ⟨[], by rw [List.append_nil]; exact held⟩
    lasting := fun _ node held => ⟨node, held⟩
    bound := fun _ _ held => held
    fresh := fun key binding unbound held => by rw [unbound] at held; cases held
    reachable := id }

theorem Extends.trans {w between after : Walk} (first : w.Extends between)
    (second : between.Extends after) : w.Extends after := by
  refine ⟨first.names.trans second.names, first.scopes.trans second.scopes, ?_, ?_, ?_, ?_, ?_⟩
  · intro name declared held
    obtain ⟨more, between⟩ := first.locals name declared held
    obtain ⟨rest, held⟩ := second.locals name _ between
    exact ⟨more ++ rest, by rw [held, List.append_assoc]⟩
  · intro name node held
    obtain ⟨other, held⟩ := first.lasting name node held
    exact second.lasting name other held
  · exact fun key binding held => second.bound key binding (first.bound key binding held)
  · intro key binding unbound held member
    cases middle : Table.get? between.bindings key with
    | none => exact second.fresh key binding middle held (first.names.subset member)
    | some earlier =>
        rw [second.bound key earlier middle, Option.some.injEq] at held
        subst held
        exact first.fresh key earlier unbound middle member
  · exact second.reachable ∘ first.reachable

theorem Extends.has {w after : Walk} (extended : w.Extends after) {name : String}
    (known : w.registry.has name = true) : after.registry.has name = true := by
  rw [Registry.has_iff] at known ⊢
  exact extended.names.subset known

theorem Grows.refl (w : Walk) : w.Grows w :=
  ⟨Extends.refl w, fun _ _ held => held, fun _ _ _ unbound held => by rw [unbound] at held; cases held⟩

theorem Grows.trans {w between after : Walk} (first : w.Grows between)
    (second : between.Grows after) : w.Grows after := by
  refine ⟨first.toExtends.trans second.toExtends, ?_, ?_⟩
  · intro name node held
    exact second.filled name node (first.filled name node held)
  · intro home name binding unbound held
    cases middle : Table.get? between.bindings (home, name) with
    | none => exact second.imports home name binding middle held
    | some earlier =>
        rw [second.bound _ earlier middle, Option.some.injEq] at held
        subst held
        exact second.filled _ _ (first.imports home name earlier unbound middle)

theorem Settled.refl (w : Walk) : w.Settled w := fun _ reserved => reserved

theorem Settled.trans {w between after : Walk} (first : w.Settled between)
    (second : between.Settled after) : w.Settled after :=
  fun name reserved => first name (second name reserved)

/-- Events and counts say nothing about the registry. -/
theorem grows_of_same {w after : Walk} (registry : after.registry = w.registry)
    (scopes : after.scopes = w.scopes) (locals : after.localNames = w.localNames)
    (bindings : after.bindings = w.bindings) (reachable : w.Reachable → after.Reachable) :
    w.Grows after := by
  have same := Grows.refl w
  refine ⟨⟨?_, ?_, ?_, ?_, ?_, ?_, reachable⟩, ?_, ?_⟩
  · exact registry.symm ▸ same.names
  · rw [scopes]
    exact same.scopes
  · rw [locals]
    exact same.locals
  · rw [registry]
    exact same.lasting
  · rw [bindings]
    exact same.bound
  · rw [bindings]
    exact same.fresh
  · rw [registry]
    exact same.filled
  · rw [bindings, registry]
    exact same.imports

theorem settled_of_same {w after : Walk} (registry : after.registry = w.registry) :
    w.Settled after := by
  intro name reserved
  rwa [registry] at reserved

theorem grows_emit (w : Walk) (event : Event) : w.Grows (w.emit event) :=
  grows_of_same rfl rfl rfl rfl (Reachable.emit event)

@[simp] theorem registry_bind (w : Walk) (home name : String) :
    (w.bind home name).2.registry = w.registry := by
  simp only [bind]
  split <;> rfl

@[simp] theorem scopes_bind (w : Walk) (home name : String) :
    (w.bind home name).2.scopes = w.scopes := by
  simp only [bind]
  split <;> rfl

@[simp] theorem localNames_bind (w : Walk) (home name : String) :
    (w.bind home name).2.localNames = w.localNames := by
  simp only [bind]
  split <;> rfl

@[simp] theorem bindings_bind (w : Walk) (home name : String) :
    (w.bind home name).2.bindings = (w.bindings.bind home name w.registry.names).2 := by
  simp only [bind]
  split <;> rfl

@[simp] theorem bind_fst (w : Walk) (home name : String) :
    (w.bind home name).1 = (w.bindings.bind home name w.registry.names).1 := rfl

theorem extends_bind (w : Walk) (home name : String) : w.Extends (w.bind home name).2 := by
  have same := Extends.refl w
  refine ⟨by simp, by simpa using same.scopes, by simpa using same.locals,
    by simpa using same.lasting, ?_, ?_, Reachable.bind home name⟩
  · intro key binding held
    rw [bindings_bind]
    by_cases own : (home, name) = key
    · subst own
      rw [Bindings.bind_of_bound _ held, held]
    · rw [Bindings.get?_bind_of_ne _ own, held]
  · intro key binding unbound held
    rw [bindings_bind] at held
    by_cases own : (home, name) = key
    · subst own
      rw [Bindings.get?_bind_self, Option.some.injEq] at held
      exact held ▸ (Bindings.bind_fresh _ unbound).1
    · rw [Bindings.get?_bind_of_ne _ own, unbound] at held
      cases held

theorem extends_set (w : Walk) (name : String) (node : Node) : w.Extends (w.set name node) := by
  have same := Extends.refl w
  refine ⟨?_, ScopesGrow.refl _, same.locals, ?_, same.bound, same.fresh, Reachable.set name node⟩
  · change _ <+: (w.registry.set name node).names
    rw [Registry.names_set]
    split
    · exact List.prefix_refl _
    · exact List.prefix_append _ _
  · intro other held filled
    by_cases own : name = other
    · subst own
      exact ⟨node, Registry.filled_set_self w.registry name node⟩
    · exact ⟨held, Registry.filled_set_of_ne node own filled⟩

theorem extends_reserve (w : Walk) (name : String) : w.Extends (w.reserve name) := by
  have same := Extends.refl w
  refine ⟨?_, ScopesGrow.refl _, same.locals, ?_, same.bound, same.fresh, Reachable.reserve name⟩
  · change _ <+: (w.registry.reserve name).names
    rw [Registry.names_reserve]
    split
    · exact List.prefix_refl _
    · exact List.prefix_append _ _
  · exact fun other held filled => ⟨held, Registry.filled_reserve filled name⟩

theorem grows_reserve (w : Walk) (name : String) : w.Grows (w.reserve name) :=
  ⟨extends_reserve w name, fun _ _ filled => Registry.filled_reserve filled name,
    fun _ _ _ unbound held => by
      change Table.get? w.bindings _ = _ at held
      rw [unbound] at held
      cases held⟩

/-- An entry may be written where a walk had none yet, however much has happened since, unless its
name has become a binding. -/
theorem Grows.set {w after : Walk} (grows : w.Grows after) {name : String}
    (unfilled : ∀ node, ¬ w.registry.Filled name node)
    (unbound : ∀ key, Table.get? w.bindings key = none → Table.get? after.bindings key ≠ some name)
    (node : Node) : w.Grows (after.set name node) := by
  refine ⟨grows.toExtends.trans (extends_set after name node), ?_, ?_⟩
  · intro other held filled
    have distinct : name ≠ other := by
      rintro rfl
      exact unfilled held filled
    exact Registry.filled_set_of_ne node distinct (grows.filled other held filled)
  · intro home own binding fresh held
    have distinct : name ≠ binding := by
      rintro rfl
      exact unbound _ fresh held
    exact Registry.filled_set_of_ne node distinct (grows.imports home own binding fresh held)

theorem Extends.unbound_of_has {w after : Walk} (extended : w.Extends after) {name : String}
    (known : w.registry.has name = true) (key : String × String)
    (unbound : Table.get? w.bindings key = none) : Table.get? after.bindings key ≠ some name :=
  fun held => extended.fresh key name unbound held ((w.registry.has_iff name).mp known)

theorem settled_set (w : Walk) (name : String) (node : Node) : w.Settled (w.set name node) := by
  intro other reserved
  change (w.registry.set name node).isPlaceholder other = true at reserved
  rw [Registry.isPlaceholder_set, Bool.and_eq_true] at reserved
  exact reserved.1

/-- A name that is reserved at first and written at the end is not reserved any more. -/
theorem settled_of_reserve {w built : Walk} {name : String}
    (settled : (w.reserve name).Settled built) (node : Node) : w.Settled (built.set name node) := by
  intro other reserved
  change (built.registry.set name node).isPlaceholder other = true at reserved
  simp only [Registry.isPlaceholder_set, Bool.and_eq_true, decide_eq_true_eq] at reserved
  have before := settled other reserved.1
  change (w.registry.reserve name).isPlaceholder other = true at before
  cases known : w.registry.has name with
  | true => rwa [Registry.reserve_of_has known] at before
  | false =>
      rw [Registry.isPlaceholder_reserve known] at before
      simpa [reserved.2] using before

theorem prefix_addName (names : List String) (name : String) : names <+: addName names name := by
  unfold addName
  split
  · exact List.prefix_refl _
  · exact List.prefix_append _ _

theorem prefix_addNames (names declared : List String) :
    names <+: declared.foldl addName names := by
  induction declared generalizing names with
  | nil => exact List.prefix_refl _
  | cons name rest ih => exact (prefix_addName names name).trans (ih _)

theorem mem_addName (names : List String) (name : String) : name ∈ addName names name := by
  unfold addName
  split
  · assumption
  · exact List.mem_append_right _ (List.mem_singleton.mpr rfl)

theorem mem_addNames {names declared : List String} {name : String} (member : name ∈ declared) :
    name ∈ declared.foldl addName names := by
  induction declared generalizing names with
  | nil => cases member
  | cons first rest ih =>
      rcases List.mem_cons.mp member with rfl | later
      · exact (prefix_addNames _ rest).subset (mem_addName names name)
      · exact ih later

@[simp] theorem registry_declareLocal (w : Walk) (name : String) :
    (w.declareLocal name).registry = w.registry := by
  unfold declareLocal
  split <;> rfl

@[simp] theorem localNames_declareLocal (w : Walk) (name : String) :
    (w.declareLocal name).localNames = w.localNames := by
  unfold declareLocal
  split <;> rfl

@[simp] theorem bindings_declareLocal (w : Walk) (name : String) :
    (w.declareLocal name).bindings = w.bindings := by
  unfold declareLocal
  split <;> rfl

theorem grows_declareLocal (w : Walk) (name : String) : w.Grows (w.declareLocal name) := by
  have same := Grows.refl w
  refine ⟨⟨by simp, ?_, by simpa using same.locals, by simpa using same.lasting, by simp,
    by simpa using same.fresh, Reachable.declareLocal name⟩, by simp, by simpa using same.imports⟩
  unfold declareLocal
  split
  · exact ScopesGrow.refl _
  · rename_i scope outer inside
    obtain ⟨declared, extended⟩ := prefix_addName scope name
    rw [inside]
    exact ⟨declared, by rw [extended]⟩

@[simp] theorem registry_closeScope (w : Walk) (name : String) :
    (w.closeScope name).registry = w.registry := by
  unfold closeScope
  split <;> rfl

@[simp] theorem bindings_closeScope (w : Walk) (name : String) :
    (w.closeScope name).bindings = w.bindings := by
  unfold closeScope
  split <;> rfl

theorem locals_closeScope (w : Walk) (name other : String) (declared : List String)
    (held : Table.get? w.localNames other = some declared) :
    ∃ more, Table.get? (w.closeScope name).localNames other = some (declared ++ more) := by
  unfold closeScope
  split
  · exact ⟨[], by rw [List.append_nil]; exact held⟩
  · exact ⟨[], by rw [List.append_nil]; exact held⟩
  · rename_i names outer nonempty inside
    by_cases same : name = other
    · subst same
      obtain ⟨more, extended⟩ := prefix_addNames declared names
      exact ⟨more, by simp only [held, Option.getD_some, Table.get?_put_self, extended]⟩
    · refine ⟨[], ?_⟩
      rw [List.append_nil, ← held]
      exact Table.get?_put_of_ne w.localNames _ same

theorem scopes_closeScope {w : Walk} {declared : List String} {outer : List (List String)}
    (inside : w.scopes = declared :: outer) (name : String) :
    (w.closeScope name).scopes = outer := by
  unfold closeScope
  rw [inside]
  cases declared <;> rfl

theorem Extends.closeScope {w after : Walk} (extended : w.openScope.Extends after) (name : String) :
    w.Extends (after.closeScope name) := by
  obtain ⟨declared, inside⟩ := extended.scopes
  refine ⟨?_, ?_, ?_, ?_, ?_, ?_, ?_⟩
  · rw [registry_closeScope]
    exact extended.names
  · rw [scopes_closeScope inside]
    exact ScopesGrow.refl _
  · intro other held found
    obtain ⟨more, between⟩ := extended.locals other held found
    obtain ⟨rest, found⟩ := locals_closeScope after name other _ between
    exact ⟨more ++ rest, by rw [found, List.append_assoc]⟩
  · rw [registry_closeScope]
    exact extended.lasting
  · rw [bindings_closeScope]
    exact extended.bound
  · rw [bindings_closeScope]
    exact extended.fresh
  · exact fun reached => (extended.reachable reached.openScope).closeScope name

theorem Grows.closeScope {w after : Walk} (grows : w.openScope.Grows after) (name : String) :
    w.Grows (after.closeScope name) := by
  refine ⟨grows.toExtends.closeScope name, ?_, ?_⟩
  · rw [registry_closeScope]
    exact grows.filled
  · rw [registry_closeScope, bindings_closeScope]
    exact grows.imports

theorem Reachable.bare {w : Walk} (reached : w.Reachable) : w.registry.Bare := by
  induction reached with
  | fresh bindings =>
      intro name reserved
      cases reserved
  | set name node _ ih => exact Registry.bare_set ih name node
  | reserve name _ ih => exact Registry.bare_reserve ih name
  | declareLocal name _ ih => rwa [registry_declareLocal]
  | openScope _ ih => exact ih
  | closeScope name _ ih => rwa [registry_closeScope]
  | bind home name _ ih => rwa [registry_bind]
  | emit event _ ih => exact ih
  | count _ ih => exact ih

end Walk

end TypeAtlas
