import TypeAtlas.Proofs.Walk.Coverage
import TypeAtlas.Proofs.Walk.Growth

/-!
Covering steps: a step that keeps a walk covered and hands over nodes whose names the walk knows. A
node and the scope that collects its names are written by different steps, and every step of the
extractor has them agree.
-/

namespace TypeAtlas

open Node (mentions mentionsAll)

variable {α β : Type}

namespace Extract

/-- From walks that know the names in `known`, the step goes to walks that know the names of its
result. -/
structure Covers (known : List String) (step : Extract α) (names : α → List String) : Prop where
  extended : ∀ w : Walk, w.Extends (step w).2
  covered : ∀ (w : Walk) value after, step w = (.ok value, after) → w.Covered → w.scopes ≠ [] →
    (∀ name ∈ known, w.Knows name) → after.Covered ∧ ∀ name ∈ names value, after.Knows name

variable {known : List String}

theorem Covers.after {step : Extract α} {names : α → List String} (covers : Covers known step names)
    {w after : Walk} {result : Except Fault α} (ran : step w = (result, after)) :
    w.Extends after := by
  have extended := covers.extended w
  rwa [ran] at extended

theorem Covers.weaken {step : Extract α} {names : α → List String} (covers : Covers [] step names) :
    Covers known step names := by
  refine ⟨covers.extended, ?_⟩
  intro w value after ran covered inside _
  exact covers.covered w value after ran covered inside (by simp)

/-- The second step is only of interest for the values that the first can have. -/
theorem covers_bind_of {step : Extract α} {next : α → Extract β} {names : α → List String}
    {result : β → List String} (first : Covers known step names)
    (rest : ∀ value, (∃ w after, step w = (.ok value, after)) →
      Covers (names value ++ known) (next value) result) :
    Covers known (step >>= next) result := by
  constructor
  · intro w
    rcases ran : step w with ⟨fault | value, after⟩
    · rw [bind_error ran]
      exact first.after ran
    · rw [bind_ok ran]
      exact (first.after ran).trans ((rest value ⟨w, after, ran⟩).extended after)
  · intro w value final ran covered inside knows
    obtain ⟨between, after, started, ended⟩ := of_bind_ok ran
    have extended := first.after started
    obtain ⟨covered, found⟩ := first.covered w between after started covered inside knows
    apply (rest between ⟨w, after, started⟩).covered after value final ended covered
      (extended.scopes_ne_nil inside)
    intro name member
    rcases List.mem_append.mp member with new | old
    · exact found name new
    · exact extended.knows (knows name old)

theorem covers_bind {step : Extract α} {next : α → Extract β} {names : α → List String}
    {result : β → List String} (first : Covers known step names)
    (rest : ∀ value, Covers (names value ++ known) (next value) result) :
    Covers known (step >>= next) result :=
  covers_bind_of first fun value _ => rest value

theorem covers_pure {value : α} {names : α → List String} (subset : names value ⊆ known) :
    Covers known (pure value) names := by
  refine ⟨Walk.Extends.refl, ?_⟩
  intro w result after ran covered _ knows
  cases ran
  exact ⟨covered, fun name member => knows name (subset member)⟩

/-- A step that asks the program and writes nothing. -/
theorem covers_lift (result : Except Fault α) : Covers known (liftM result) fun _ => [] := by
  refine ⟨Walk.Extends.refl, ?_⟩
  intro w value after ran covered _ _
  cases ran
  exact ⟨covered, by simp⟩

theorem covers_lift_of {result : Except Fault α} {names : α → List String}
    (subset : ∀ value, result = .ok value → names value ⊆ known) :
    Covers known (liftM result) names := by
  refine ⟨Walk.Extends.refl, ?_⟩
  intro w value after ran covered _ knows
  obtain ⟨ok, rfl⟩ := Prod.mk.inj ran
  exact ⟨covered, fun name member => knows name (subset value ok member)⟩

theorem covers_fail (fault : Fault) (names : α → List String) :
    Covers known (fail fault) names := by
  refine ⟨Walk.Extends.refl, ?_⟩
  intro w value after ran
  cases ran

theorem covers_diagnose (d : Diagnostic) (names : α → List String) :
    Covers known (diagnose d) names := covers_fail _ names

theorem covers_get : Covers known get fun _ => [] := by
  refine ⟨Walk.Extends.refl, ?_⟩
  intro w value after ran covered _ _
  cases ran
  exact ⟨covered, by simp⟩

theorem covers_map {step : Extract α} {names : α → List String} {result : β → List String}
    (f : α → β) (covers : Covers known step names)
    (subset : ∀ value, result (f value) ⊆ names value ++ known) : Covers known (f <$> step) result := by
  rw [map_eq]
  exact covers_bind covers fun value => covers_pure (subset value)

theorem covers_some {step : Extract Node} (covers : Covers known step mentions) :
    Covers known (some <$> step) fun node => mentionsAll node.toList := by
  apply covers_map some covers
  intro value
  simp

theorem covers_mapM_of {f : α → Extract β} {names : β → List String} {items : List α}
    (each : ∀ item ∈ items, Covers [] (f item) names) :
    Covers known (items.mapM f) fun values => values.flatMap names := by
  induction items generalizing known with
  | nil => exact covers_pure (by simp)
  | cons item rest ih =>
      rw [List.mapM_cons]
      refine covers_bind (each item (by simp)).weaken fun value => ?_
      refine covers_bind (ih fun later member => each later (by simp [member])) fun values => ?_
      apply covers_pure
      intro name
      simp only [List.flatMap_cons, List.mem_append]
      grind

theorem covers_mapM {f : α → Extract β} {names : β → List String} {items : List α}
    (each : ∀ item, Covers [] (f item) names) :
    Covers known (items.mapM f) fun values => values.flatMap names :=
  covers_mapM_of fun item _ => each item

theorem covers_emit (event : Event) : Covers known (emit event) fun _ => [] := by
  have extended (w : Walk) : w.Extends (w.emit event) := (Walk.grows_emit w event).toExtends
  refine ⟨extended, ?_⟩
  intro w value after ran covered _ _
  cases ran
  exact ⟨covered.of_same_registry (extended w) rfl, by simp⟩

theorem covers_declareLocal (name : String) : Covers known (declareLocal name) fun _ => [name] := by
  have extended (w : Walk) : w.Extends (w.declareLocal name) :=
    (Walk.grows_declareLocal w name).toExtends
  refine ⟨extended, ?_⟩
  intro w value after ran covered inside _
  cases ran
  refine ⟨covered.of_same_registry (extended w) (Walk.registry_declareLocal w name), ?_⟩
  intro declared member
  rw [List.mem_singleton] at member
  subst member
  right
  cases held : w.scopes with
  | nil => exact absurd held inside
  | cons scope outer =>
      have member : declared ∈ Walk.addName scope declared := Walk.mem_addName scope declared
      simpa [Walk.declareLocal, held] using member

theorem covers_isRegistered (name : String) : Covers known (isRegistered name) fun _ => [] := by
  refine ⟨Walk.Extends.refl, ?_⟩
  intro w value after ran covered _ _
  cases ran
  exact ⟨covered, by simp⟩

theorem covers_resolve (name : String) (types : List Node) (live : Option TypeId)
    (subset : mentionsAll types ⊆ known) :
    Covers known (resolve name types live) fun ref => (Node.ref ref).mentions := by
  refine ⟨fun w => Walk.extends_reserve w name, ?_⟩
  intro w ref after ran covered _ knows
  cases ran
  refine ⟨covered.reserve name, ?_⟩
  intro mentioned member
  rw [Node.mentions_ref, List.mem_cons] at member
  rcases member with rfl | member
  · left
    change (w.registry.reserve mentioned).has mentioned = true
    rw [Registry.has_iff, Registry.names_reserve]
    split
    · assumption
    · exact List.mem_append_right _ (List.mem_singleton.mpr rfl)
  · exact (Walk.extends_reserve w name).knows (knows mentioned (subset member))

theorem covers_set {name : String} {node : Node} (closed : node.mentions = []) :
    Covers known (set name node) fun _ => [name] := by
  refine ⟨fun w => Walk.extends_set w name node, ?_⟩
  intro w value after ran covered _ _
  cases ran
  refine ⟨covered.set (by simp [closed]), ?_⟩
  intro mentioned member
  rw [List.mem_singleton] at member
  subst member
  exact Or.inl (Registry.has_set_self w.registry mentioned node)

theorem covers_entry (name : String) {body : Extract Node} (covers : Covers [] body mentions) :
    Covers known (inScope name do set name (← body)) fun _ => [name] := by
  constructor
  · intro w
    rw [inScope_apply]
    apply Walk.Extends.closeScope
    rcases ran : body w.openScope with ⟨fault | node, after⟩
    · rw [bind_error ran]
      exact covers.after ran
    · rw [bind_ok ran]
      exact (covers.after ran).trans (Walk.extends_set after name node)
  · intro w value final ran covered _ _
    obtain ⟨inner, entered, rfl⟩ := of_inScope_ok ran
    obtain ⟨node, built, made, written⟩ := of_bind_ok entered
    cases written
    have opened : w.openScope.Covered := covered
    obtain ⟨covered, knows⟩ := covers.covered _ node built made opened (List.cons_ne_nil _ _) (by simp)
    rw [Walk.closeScope_set]
    refine ⟨covered.close knows, ?_⟩
    intro mentioned member
    rw [List.mem_singleton] at member
    subst member
    exact Or.inl (Registry.has_set_self _ mentioned node)

theorem covers_reserve (name : String) : Covers known (reserve name) fun _ => [] := by
  refine ⟨fun w => Walk.extends_reserve w name, ?_⟩
  intro w value after ran covered _ _
  cases ran
  exact ⟨covered.reserve name, by simp⟩

end Extract

end TypeAtlas
