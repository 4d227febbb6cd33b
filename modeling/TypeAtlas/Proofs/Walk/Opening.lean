import TypeAtlas.Proofs.Node.Scope
import TypeAtlas.Proofs.Walk.Growth

/-!
Steps that leave few names open: the names that are open in their result are registered meanwhile or
belong to the names that are free where the step is taken.
-/

namespace TypeAtlas

open Node (Open OpenAll)

variable {α β : Type}

namespace Extract

structure Opens (free : String → Prop) (step : Extract α) (names : α → String → Prop) : Prop where
  kept : ∀ (w : Walk) name, w.registry.has name = true → (step w).2.registry.has name = true
  opened : ∀ (w : Walk) value after, step w = (.ok value, after) → ∀ name, names value name →
    after.registry.has name = true ∨ free name

def silent : α → String → Prop := fun _ _ => False

variable {free more : String → Prop}

theorem Opens.after {step : Extract α} {names : α → String → Prop} (opens : Opens free step names)
    {w after : Walk} {result : Except Fault α} (ran : step w = (result, after)) {name : String}
    (known : w.registry.has name = true) : after.registry.has name = true := by
  have kept := opens.kept w name known
  rwa [ran] at kept

theorem Opens.weaken {step : Extract α} {names : α → String → Prop} (opens : Opens free step names)
    (wider : ∀ name, free name → more name) : Opens more step names :=
  ⟨opens.kept, fun w value after ran name opened =>
    (opens.opened w value after ran name opened).imp_right (wider name)⟩

theorem Opens.sharpen {step : Extract α} {names result : α → String → Prop}
    (opens : Opens more step names)
    (sharper : ∀ w value after, step w = (.ok value, after) → ∀ name, result value name →
      names value name ∧ (more name → free name)) : Opens free step result :=
  ⟨opens.kept, fun w value after ran name opened =>
    have sharp := sharper w value after ran name opened
    (opens.opened w value after ran name sharp.1).imp_right sharp.2⟩

theorem Opens.narrow {step : Extract α} {names result : α → String → Prop}
    (opens : Opens free step names) (narrower : ∀ value name, result value name → names value name) :
    Opens free step result :=
  opens.sharpen fun _ value _ _ name opened => ⟨narrower value name opened, id⟩

/-- The second step is only of interest for the values that the first can have. -/
theorem opens_bind_of {step : Extract α} {next : α → Extract β} {names : α → String → Prop}
    {result : β → String → Prop} (first : Opens free step names)
    (rest : ∀ value, (∃ w after, step w = (.ok value, after)) →
      Opens (fun name => free name ∨ names value name) (next value) result) :
    Opens free (step >>= next) result := by
  constructor
  · intro w name known
    rcases ran : step w with ⟨fault | value, after⟩
    · rw [bind_error ran]
      exact first.after ran known
    · rw [bind_ok ran]
      exact (rest value ⟨w, after, ran⟩).kept after name (first.after ran known)
  · intro w value final ran name opened
    obtain ⟨between, after, started, ended⟩ := of_bind_ok ran
    have second := rest between ⟨w, after, started⟩
    rcases second.opened after value final ended name opened with known | known | earlier
    · exact Or.inl known
    · exact Or.inr known
    · rcases first.opened w between after started name earlier with known | known
      · exact Or.inl (second.after ended known)
      · exact Or.inr known

theorem opens_bind {step : Extract α} {next : α → Extract β} {names : α → String → Prop}
    {result : β → String → Prop} (first : Opens free step names)
    (rest : ∀ value, Opens (fun name => free name ∨ names value name) (next value) result) :
    Opens free (step >>= next) result :=
  opens_bind_of first fun value _ => rest value

theorem opens_pure {value : α} {names : α → String → Prop}
    (known : ∀ name, names value name → free name) : Opens free (pure value) names := by
  refine ⟨fun _ _ known => known, ?_⟩
  intro w result after ran name opened
  cases ran
  exact Or.inr (known name opened)

/-- A node without references leaves nothing open. -/
theorem opens_closed {node : Node} (closed : node.mentions = []) : Opens free (pure node) Open :=
  opens_pure fun _ opened => absurd opened (Node.not_open_of_mentions closed)

/-- A step that only changes what is not registered. -/
theorem opens_of_registry {step : Extract α} (same : ∀ w, (step w).2.registry = w.registry) :
    Opens free step silent := by
  refine ⟨fun w name known => ?_, nofun⟩
  rwa [same w]

theorem opens_lift (result : Except Fault α) : Opens free (liftM result) silent :=
  opens_of_registry fun _ => rfl

theorem opens_lift_of {result : Except Fault α} {names : α → String → Prop}
    (known : ∀ value, result = .ok value → ∀ name, names value name → free name) :
    Opens free (liftM result) names := by
  refine ⟨fun _ _ known => known, ?_⟩
  intro w value after ran name opened
  obtain ⟨ok, rfl⟩ := Prod.mk.inj ran
  exact Or.inr (known value ok name opened)

/-- A question that the program answers comes before a step that is only taken on its answer. -/
theorem opens_lift_bind {result : Except Fault α} {next : α → Extract β} {names : β → String → Prop}
    (rest : ∀ value, result = .ok value → Opens free (next value) names) :
    Opens free (liftM result >>= next) names := by
  refine opens_bind_of (opens_lift result) fun value asked => ?_
  obtain ⟨_, _, asked⟩ := asked
  exact (rest value (Prod.mk.inj asked).1).weaken fun _ known => Or.inl known

theorem opens_fail (fault : Fault) (names : α → String → Prop) : Opens free (fail fault) names :=
  ⟨fun _ _ known => known, nofun⟩

theorem opens_diagnose (d : Diagnostic) (names : α → String → Prop) :
    Opens free (diagnose d) names := opens_fail _ names

theorem opens_get : Opens free get silent := opens_of_registry fun _ => rfl

theorem opens_emit (event : Event) : Opens free (emit event) silent := opens_of_registry fun _ => rfl

theorem opens_declareLocal (name : String) : Opens free (declareLocal name) silent :=
  opens_of_registry fun w => Walk.registry_declareLocal w name

theorem opens_isRegistered (name : String) :
    Opens free (isRegistered name) fun known other => known = true ∧ other = name := by
  refine ⟨fun _ _ known => known, ?_⟩
  rintro w _ after ran _ ⟨rfl, rfl⟩
  rw [isRegistered_apply, Prod.mk.injEq] at ran
  obtain ⟨known, rfl⟩ := ran
  exact Or.inl (Except.ok.inj known)

theorem opens_map {step : Extract α} {names : α → String → Prop} {result : β → String → Prop}
    (f : α → β) (opens : Opens free step names)
    (known : ∀ value name, result (f value) name → names value name) :
    Opens free (f <$> step) result := by
  rw [map_eq]
  exact opens_bind opens fun value => opens_pure fun name opened => Or.inr (known value name opened)

theorem opens_some {step : Extract Node} (opens : Opens free step Open) :
    Opens free (some <$> step) fun node => OpenAll node.toList :=
  opens_map some opens fun value name opened => by simpa using opened

def among (names : β → String → Prop) (values : List β) (name : String) : Prop :=
  ∃ value ∈ values, names value name

theorem among_flatten {values : List (List Node)} {name : String} (opened : OpenAll values.flatten name) :
    among OpenAll values name := by
  obtain ⟨node, held, opened⟩ := opened
  obtain ⟨nodes, listed, held⟩ := List.mem_flatten.mp held
  exact ⟨nodes, listed, node, held, opened⟩

theorem opens_mapM {f : α → Extract β} {names : β → String → Prop} {items : List α}
    (each : ∀ item ∈ items, Opens free (f item) names) :
    Opens free (items.mapM f) (among names) := by
  induction items generalizing free with
  | nil =>
      refine opens_pure ?_
      rintro name ⟨_, held, -⟩
      cases held
  | cons item rest ih =>
      rw [List.mapM_cons]
      refine opens_bind (each item (List.mem_cons_self ..)) fun value => ?_
      refine opens_bind (ih fun later member =>
        (each later (List.mem_cons_of_mem _ member)).weaken fun _ known => Or.inl known) fun values => ?_
      refine opens_pure ?_
      rintro name ⟨held, member, opened⟩
      rcases List.mem_cons.mp member with rfl | member
      · exact Or.inl (Or.inr opened)
      · exact Or.inr ⟨held, member, opened⟩

theorem opens_reserve (name : String) : Opens free (reserve name) fun _ other => other = name := by
  constructor
  · intro w other known
    exact (Walk.extends_reserve w name).has known
  · rintro w _ after ran _ rfl
    cases ran
    left
    change (w.registry.reserve _).has _ = true
    rw [Registry.has_iff, Registry.names_reserve]
    split
    · assumption
    · exact List.mem_append_right _ (List.mem_singleton.mpr rfl)

theorem opens_set (name : String) (node : Node) :
    Opens free (set name node) fun _ other => other = name := by
  constructor
  · intro w other known
    exact (Walk.extends_set w name node).has known
  · rintro w _ after ran _ rfl
    cases ran
    exact Or.inl (Registry.has_set_self w.registry _ node)

theorem opens_resolve (name : String) {types : List Node} (live : Option TypeId)
    (known : ∀ other, OpenAll types other → free other) :
    Opens free (resolve name types live) fun ref => (Node.ref ref).Open := by
  constructor
  · intro w other held
    rw [resolve_apply]
    exact (Walk.extends_reserve w name).has held
  · intro w ref after ran other opened
    cases ran
    rcases Node.open_ref opened with rfl | arguments
    · have reserved (name : String) : Opens free (reserve name) fun _ other => other = name :=
        opens_reserve name
      exact (reserved _).opened w () _ rfl _ rfl
    · exact Or.inr (known other arguments)

theorem opens_inScope (name : String) {step : Extract α} {names : α → String → Prop}
    (opens : Opens free step names) : Opens free (inScope name step) names := by
  constructor
  · intro w other known
    rw [inScope_apply, Walk.registry_closeScope]
    exact opens.kept w.openScope other known
  · intro w value after ran other opened
    obtain ⟨inner, entered, rfl⟩ := of_inScope_ok ran
    rw [Walk.registry_closeScope]
    exact opens.opened w.openScope value inner entered other opened

theorem opens_register (name : String) {body : Extract Node} {names : Node → String → Prop}
    (opens : Opens more body names) :
    Opens free (Engine.register name body) fun _ other => other = name := by
  have built : Opens (fun _ => True) (inScope name do reserve name; set name (← body))
      fun _ other => other = name :=
    opens_inScope name <| opens_bind (opens_reserve name) fun _ =>
      opens_bind (opens.weaken fun _ _ => Or.inl trivial) fun node => opens_set name node
  have opened (w : Walk) : Engine.register name body w =
      if w.registry.has name = true then (.ok (), w)
      else (inScope name do reserve name; set name (← body)) w := by
    rw [Engine.register, bind_ok (isRegistered_apply name w)]
    split <;> rfl
  constructor
  · intro w other known
    rw [opened]
    split
    · exact known
    · exact built.kept w other known
  · rintro w _ after ran _ rfl
    rw [opened] at ran
    split at ran
    · rename_i known
      cases ran
      exact Or.inl known
    · left
      obtain ⟨inner, entered, rfl⟩ := of_inScope_ok ran
      obtain ⟨_, reserved, _, written⟩ := of_bind_ok entered
      obtain ⟨node, made, _, written⟩ := of_bind_ok written
      cases written
      rw [Walk.registry_closeScope]
      exact Registry.has_set_self _ _ node

end Extract

end TypeAtlas
