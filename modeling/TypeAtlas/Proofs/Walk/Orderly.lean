import TypeAtlas.Proofs.Walk.Growth

/-!
Orderly steps: a walk only grows while such a step runs, and when the step succeeds every name that it
reserved has its entry.
-/

namespace TypeAtlas

variable {α β : Type}

namespace Extract

structure Keeps (step : Extract α) (w : Walk) : Prop where
  grows : w.Grows (step w).2
  settled : ∀ value, (step w).1 = .ok value → w.Settled (step w).2

def Orderly (step : Extract α) : Prop := ∀ w, Keeps step w

theorem Keeps.result {step : Extract α} {w after : Walk} {value : α} (keeps : Keeps step w)
    (ran : step w = (.ok value, after)) : w.Grows after ∧ w.Settled after := by
  have grows := keeps.grows
  have settled := keeps.settled value
  rw [ran] at grows settled
  exact ⟨grows, settled rfl⟩

theorem keeps_bind {step : Extract α} {next : α → Extract β} {w : Walk} (first : Keeps step w)
    (rest : ∀ value after, step w = (.ok value, after) → w.Grows after → Keeps (next value) after) :
    Keeps (step >>= next) w := by
  rcases ran : step w with ⟨fault | value, after⟩
  · refine ⟨?_, ?_⟩ <;> rw [bind_error ran]
    · have grows := first.grows
      rwa [ran] at grows
    · intro value success
      cases success
  · obtain ⟨grows, settled⟩ := first.result ran
    have later := rest value after ran grows
    refine ⟨?_, ?_⟩ <;> rw [bind_ok ran]
    · exact grows.trans later.grows
    · exact fun result success => settled.trans (later.settled result success)

theorem orderly_bind {step : Extract α} {next : α → Extract β} (first : Orderly step)
    (rest : ∀ value, Orderly (next value)) : Orderly (step >>= next) :=
  fun w => keeps_bind (first w) fun value after _ _ => rest value after

theorem orderly_of_same {step : Extract α} (same : ∀ w, (step w).2 = w) : Orderly step := by
  intro w
  refine ⟨?_, fun _ _ => ?_⟩ <;> rw [same w]
  · exact Walk.Grows.refl w
  · exact Walk.Settled.refl w

theorem orderly_pure (value : α) : Orderly (pure value) := orderly_of_same fun _ => rfl

theorem orderly_lift (result : Except Fault α) : Orderly (liftM result) := orderly_of_same fun _ => rfl

theorem orderly_fail (fault : Fault) : Orderly (fail fault : Extract α) := orderly_of_same fun _ => rfl

theorem orderly_diagnose (d : Diagnostic) : Orderly (diagnose d : Extract α) :=
  orderly_of_same fun _ => rfl

theorem orderly_get : Orderly (get : Extract Walk) := orderly_of_same fun _ => rfl

theorem orderly_isRegistered (name : String) : Orderly (isRegistered name) :=
  orderly_of_same fun _ => rfl

theorem orderly_map {step : Extract α} (f : α → β) (ordered : Orderly step) :
    Orderly (f <$> step) := by
  rw [map_eq]
  exact orderly_bind ordered fun value => orderly_pure (f value)

theorem orderly_emit (event : Event) : Orderly (emit event) :=
  fun w => ⟨Walk.grows_emit w event, fun _ _ => Walk.settled_of_same rfl⟩

theorem orderly_declareLocal (name : String) : Orderly (declareLocal name) :=
  fun w => ⟨Walk.grows_declareLocal w name,
    fun _ _ => Walk.settled_of_same (Walk.registry_declareLocal w name)⟩

theorem orderly_mapM {f : α → Extract β} {items : List α} (each : ∀ item, Orderly (f item)) :
    Orderly (items.mapM f) := by
  induction items with
  | nil => exact orderly_pure []
  | cons item rest ih =>
      rw [List.mapM_cons]
      refine orderly_bind (each item) fun value => ?_
      exact orderly_bind ih fun values => orderly_pure (value :: values)

theorem keeps_set {w : Walk} {name : String} (unfilled : ∀ node, ¬ w.registry.Filled name node)
    (node : Node) : Keeps (set name node) w :=
  ⟨(Walk.Grows.refl w).set unfilled (fun _ unbound held => by rw [unbound] at held; cases held) node,
    fun _ _ => Walk.settled_set w name node⟩

/-- A reference to a registered name reserves nothing. -/
theorem keeps_resolve {w : Walk} {name : String} (known : w.registry.has name = true)
    (types : List Node) (live : Option TypeId) : Keeps (resolve name types live) w := by
  have same : w.reserve name = w := by
    rw [Walk.reserve, Registry.reserve_of_has known]
  refine ⟨?_, fun _ _ => ?_⟩ <;> rw [resolve_apply, same]
  · exact Walk.Grows.refl w
  · exact Walk.Settled.refl w

/-- A name that is reserved for the length of a step and written at its end. Until then the body may
meet the name as a placeholder, and may even give it an entry that is replaced. -/
theorem keeps_reserved {w : Walk} {name : String} {body : Extract Node}
    (fresh : w.registry.has name = false) (ordered : Orderly body) :
    Keeps (inScope name do reserve name; set name (← body)) w := by
  have known : (w.openScope.reserve name).registry.has name = true :=
    Registry.has_of_get? (Registry.get?_reserve_self fresh)
  have unfilled (node : Node) : ¬ (w.openScope.reserve name).registry.Filled name node := by
    intro held
    have left : (w.registry.reserve name).isPlaceholder name = false := held.2
    simp [Registry.isPlaceholder_reserve fresh] at left
  have opened := Walk.grows_reserve w.openScope name
  have built := ordered (w.openScope.reserve name)
  have reserved : (reserve name) w.openScope = (.ok (), w.openScope.reserve name) := rfl
  rcases ran : body (w.openScope.reserve name) with ⟨fault | node, after⟩
  · have grows := built.grows
    rw [ran] at grows
    refine ⟨?_, ?_⟩ <;> rw [inScope_apply, bind_ok reserved, bind_error ran]
    · exact (opened.trans grows).closeScope name
    · intro value success
      cases success
  · obtain ⟨grows, settled⟩ := built.result ran
    refine ⟨?_, fun _ _ => ?_⟩ <;> rw [inScope_apply, bind_ok reserved, bind_ok ran]
    · exact (opened.trans
        (grows.set unfilled (grows.toExtends.unbound_of_has known) node)).closeScope name
    · intro other left
      rw [set_apply, Walk.registry_closeScope] at left
      exact Walk.settled_of_reserve (w := w.openScope) settled node other left

end Extract

end TypeAtlas
