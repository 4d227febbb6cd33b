import TypeAtlas.Proofs.Program.Shallow
import TypeAtlas.Proofs.Walk.Growth

/-!
Steps that end: they do not run out of levels, as long as no more than a number of names are still to
be registered. Registering one of the names leaves one less for the body of its entry.
-/

namespace TypeAtlas

variable {α β : Type}

namespace Walk

def unmet (w : Walk) (names : List String) : Nat := names.countP fun name => !w.registry.has name

variable {names : List String}

theorem unmet_le (w : Walk) : w.unmet names ≤ names.length := List.countP_le_length

theorem unmet_mono {w after : Walk}
    (grown : ∀ name, w.registry.has name = true → after.registry.has name = true) :
    after.unmet names ≤ w.unmet names := by
  apply List.countP_mono_left
  intro name _ absent
  cases known : w.registry.has name with
  | false => rfl
  | true =>
      rw [grown name known] at absent
      cases absent

theorem unmet_lt {w after : Walk}
    (grown : ∀ name, w.registry.has name = true → after.registry.has name = true) {name : String}
    (member : name ∈ names) (fresh : w.registry.has name = false)
    (met : after.registry.has name = true) : after.unmet names < w.unmet names := by
  induction names with
  | nil => cases member
  | cons first rest ih =>
      have others : after.unmet rest ≤ w.unmet rest := unmet_mono grown
      rw [unmet, unmet, List.countP_cons, List.countP_cons]
      change after.unmet rest + _ < w.unmet rest + _
      rcases List.mem_cons.mp member with rfl | later
      · rw [fresh, met]
        simp
        omega
      · have fewer := ih later
        cases known : w.registry.has first with
        | false =>
            cases after.registry.has first <;> simp <;> omega
        | true =>
            rw [grown first known]
            simpa using fewer

theorem has_mono {w after : Walk} (prefixed : w.registry.names <+: after.registry.names)
    {name : String} (known : w.registry.has name = true) : after.registry.has name = true := by
  rw [Registry.has_iff] at known ⊢
  exact prefixed.subset known

theorem unmet_of_extends {w after : Walk} (extended : w.Extends after) :
    after.unmet names ≤ w.unmet names :=
  unmet_mono fun _ known => has_mono extended.names known

end Walk

namespace Extract

/-- With at most `n` of the names to go, the step does not run out of levels and leaves no more. -/
structure Ends (names : List String) (n : Nat) (step : Extract α) : Prop where
  shallow : ∀ w : Walk, w.unmet names ≤ n → Shallow (step w).1
  keeps : ∀ w : Walk, w.unmet names ≤ n → (step w).2.unmet names ≤ n

variable {names : List String} {n : Nat}

theorem Ends.after {step : Extract α} (ends : Ends names n step) {w after : Walk}
    {result : Except Fault α} (bound : w.unmet names ≤ n) (ran : step w = (result, after)) :
    Shallow result ∧ after.unmet names ≤ n := by
  have shallow := ends.shallow w bound
  have keeps := ends.keeps w bound
  rw [ran] at shallow keeps
  exact ⟨shallow, keeps⟩

/-- The second step is only of interest for the values that the first can have. -/
theorem ends_bind_of {step : Extract α} {next : α → Extract β} (first : Ends names n step)
    (rest : ∀ value, (∃ w after, step w = (.ok value, after)) → Ends names n (next value)) :
    Ends names n (step >>= next) := by
  have both (w : Walk) (bound : w.unmet names ≤ n) :
      Shallow ((step >>= next) w).1 ∧ ((step >>= next) w).2.unmet names ≤ n := by
    rcases ran : step w with ⟨fault | value, after⟩
    · obtain ⟨shallow, bound⟩ := first.after bound ran
      rw [bind_error ran]
      refine ⟨?_, bound⟩
      intro deep
      apply shallow
      cases deep
      rfl
    · obtain ⟨-, bound⟩ := first.after bound ran
      rw [bind_ok ran]
      have second := rest value ⟨w, after, ran⟩
      exact ⟨second.shallow after bound, second.keeps after bound⟩
  exact ⟨fun w bound => (both w bound).1, fun w bound => (both w bound).2⟩

theorem ends_bind {step : Extract α} {next : α → Extract β} (first : Ends names n step)
    (rest : ∀ value, Ends names n (next value)) : Ends names n (step >>= next) :=
  ends_bind_of first fun value _ => rest value

theorem ends_lift {result : Except Fault α} (shallow : Shallow result) :
    Ends names n (liftM result) :=
  ⟨fun _ _ => shallow, fun _ bound => bound⟩

theorem ends_lift_bind {result : Except Fault α} {next : α → Extract β} (shallow : Shallow result)
    (rest : ∀ value, result = .ok value → Ends names n (next value)) :
    Ends names n (liftM result >>= next) := by
  refine ends_bind_of (ends_lift shallow) ?_
  rintro value ⟨w, after, ran⟩
  exact rest value (Prod.mk.inj ran).1

theorem ends_pure (value : α) : Ends names n (pure value) := ends_lift (shallow_ok value)

theorem ends_fail {fault : Fault} (other : fault ≠ .tooDeep) :
    Ends names n (fail fault : Extract α) := by
  refine ⟨?_, fun _ bound => bound⟩
  intro w bound deep
  cases deep
  exact other rfl

theorem ends_diagnose (d : Diagnostic) : Ends names n (diagnose d : Extract α) := ends_fail nofun

theorem ends_get : Ends names n (get : Extract Walk) := ⟨fun _ _ => nofun, fun _ bound => bound⟩

theorem ends_map (f : α → β) {step : Extract α} (ends : Ends names n step) :
    Ends names n (f <$> step) := by
  rw [map_eq]
  exact ends_bind ends fun value => ends_pure (f value)

theorem ends_mapM {f : α → Extract β} {items : List α} (each : ∀ item ∈ items, Ends names n (f item)) :
    Ends names n (items.mapM f) := by
  induction items with
  | nil => exact ends_pure []
  | cons item rest ih =>
      rw [List.mapM_cons]
      refine ends_bind (each item (by simp)) fun first => ?_
      exact ends_bind (ih fun later member => each later (by simp [member])) fun others => ends_pure _

theorem ends_modify {f : Walk → Walk}
    (grown : ∀ w name, w.registry.has name = true → (f w).registry.has name = true) :
    Ends names n (modify f) :=
  ⟨fun _ _ => nofun, fun w bound => Nat.le_trans (Walk.unmet_mono (grown w)) bound⟩

theorem ends_emit (event : Event) : Ends names n (emit event) := ends_modify fun _ _ known => known

theorem ends_declareLocal (name : String) : Ends names n (declareLocal name) := by
  refine ends_modify fun w other known => ?_
  rwa [Walk.registry_declareLocal]

theorem ends_set (name : String) (node : Node) : Ends names n (set name node) :=
  ends_modify fun w _ => Walk.has_mono (Walk.extends_set w name node).names

theorem ends_reserve (name : String) : Ends names n (reserve name) :=
  ends_modify fun w _ => Walk.has_mono (Walk.grows_reserve w name).names

theorem ends_isRegistered (name : String) : Ends names n (isRegistered name) :=
  ends_bind ends_get fun _ => ends_pure _

theorem ends_resolve (name : String) (types : List Node) (live : Option TypeId) :
    Ends names n (resolve name types live) := by
  refine ⟨fun _ _ => nofun, fun w bound => ?_⟩
  exact Nat.le_trans (Walk.unmet_of_extends (Walk.extends_reserve w name)) bound

theorem ends_inScope (name : String) {step : Extract α} (ends : Ends names n step) :
    Ends names n (inScope name step) := by
  refine ⟨fun w bound => ends.shallow w.openScope bound, fun w bound => ?_⟩
  rw [inScope_apply, Walk.unmet, Walk.registry_closeScope]
  exact ends.keeps w.openScope bound

theorem ends_register {name : String} (member : name ∈ names) {body : Extract Node}
    (ends : ∀ m, n = m + 1 → Ends names m body) : Ends names n (Engine.register name body) := by
  have opened (w : Walk) : Engine.register name body w =
      if w.registry.has name = true then (.ok (), w)
      else inScope name (do Extract.reserve name; Extract.set name (← body)) w := by
    rw [Engine.register, bind_ok (isRegistered_apply name w)]
    split <;> rfl
  have both (w : Walk) (bound : w.unmet names ≤ n) :
      Shallow (Engine.register name body w).1 ∧
        (Engine.register name body w).2.unmet names ≤ n := by
    rw [opened]
    cases known : w.registry.has name with
    | true => exact ⟨nofun, bound⟩
    | false =>
        rw [if_neg (by simp)]
        have grown := Walk.grows_reserve w.openScope name
        have met : (w.openScope.reserve name).registry.has name = true :=
          Registry.has_of_get? (Registry.get?_reserve_self known)
        have fewer : (w.openScope.reserve name).unmet names < w.unmet names :=
          Walk.unmet_lt (fun _ => Walk.has_mono grown.names) member known met
        obtain ⟨m, rfl⟩ : ∃ m, n = m + 1 := ⟨n - 1, by omega⟩
        have inner : Ends names m (do Extract.set name (← body)) :=
          ends_bind (ends m rfl) fun node => ends_set name node
        have bound : (w.openScope.reserve name).unmet names ≤ m := by omega
        have reserved : (do Extract.reserve name; Extract.set name (← body) : Extract Unit) w.openScope =
            (do Extract.set name (← body) : Extract Unit) (w.openScope.reserve name) :=
          bind_ok (reserve_apply name w.openScope)
        rw [inScope_apply, reserved]
        refine ⟨inner.shallow _ bound, ?_⟩
        rw [Walk.unmet, Walk.registry_closeScope]
        exact Nat.le_trans (inner.keeps _ bound) (Nat.le_succ m)
  exact ⟨fun w bound => (both w bound).1, fun w bound => (both w bound).2⟩

end Extract

end TypeAtlas
