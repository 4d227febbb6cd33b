import Mathlib.Data.List.Forall2
import TypeAtlas.Program.Record

/-!
Steps that may fail and keep what they did to a state: equations that open them one at a time. A
fault ends a sequence, and the state stays as the fault left it.
-/

namespace TypeAtlas

variable {σ α β : Type}

@[simp] theorem pure_apply (value : α) (s : σ) :
    (pure value : ExceptT Fault (StateM σ) α) s = (.ok value, s) := rfl

@[simp] theorem lift_apply (result : Except Fault α) (s : σ) :
    (liftM result : ExceptT Fault (StateM σ) α) s = (result, s) := rfl

@[simp] theorem throw_apply (fault : Fault) (s : σ) :
    (throw fault : ExceptT Fault (StateM σ) α) s = (.error fault, s) := rfl

@[simp] theorem get_apply (s : σ) : (get : ExceptT Fault (StateM σ) σ) s = (.ok s, s) := rfl

@[simp] theorem modify_apply (f : σ → σ) (s : σ) :
    (modify f : ExceptT Fault (StateM σ) Unit) s = (.ok (), f s) := rfl

@[simp] theorem modifyGet_apply (f : σ → α × σ) (s : σ) :
    (modifyGet f : ExceptT Fault (StateM σ) α) s = (.ok (f s).1, (f s).2) := rfl

theorem bind_apply (step : ExceptT Fault (StateM σ) α) (next : α → ExceptT Fault (StateM σ) β)
    (s : σ) :
    (step >>= next) s = match step s with
      | (.ok value, after) => next value after
      | (.error fault, after) => (.error fault, after) := by
  change ExceptT.bind step next s = _
  simp only [ExceptT.bind, ExceptT.mk, ExceptT.bindCont, StateT.bind, bind]
  rcases step s with ⟨_ | value, after⟩ <;> rfl

theorem bind_ok {step : ExceptT Fault (StateM σ) α} {next : α → ExceptT Fault (StateM σ) β}
    {s after : σ} {value : α} (ran : step s = (.ok value, after)) :
    (step >>= next) s = next value after := by
  rw [bind_apply, ran]

theorem bind_error {step : ExceptT Fault (StateM σ) α} {next : α → ExceptT Fault (StateM σ) β}
    {s after : σ} {fault : Fault} (ran : step s = (.error fault, after)) :
    (step >>= next) s = (.error fault, after) := by
  rw [bind_apply, ran]

theorem of_bind_ok {step : ExceptT Fault (StateM σ) α} {next : α → ExceptT Fault (StateM σ) β}
    {s final : σ} {result : β} (ran : (step >>= next) s = (.ok result, final)) :
    ∃ value after, step s = (.ok value, after) ∧ next value after = (.ok result, final) := by
  rw [bind_apply] at ran
  rcases first : step s with ⟨fault | value, after⟩
  · rw [first] at ran
    cases ran
  · rw [first] at ran
    exact ⟨value, after, rfl, ran⟩

theorem map_eq (f : α → β) (step : ExceptT Fault (StateM σ) α) :
    f <$> step = step >>= fun value => pure (f value) :=
  map_eq_pure_bind f step

/-- A step whose value is wrapped gives no empty value. -/
theorem some_map_ne_none {step : ExceptT Fault (StateM σ) α} {s s' : σ} :
    (some <$> step) s ≠ (.ok none, s') := by
  intro ran
  rw [map_eq] at ran
  obtain ⟨_, _, -, ran⟩ := of_bind_ok ran
  cases ran

theorem mapM_lift (f : α → Except Fault β) (items : List α) :
    items.mapM (fun item => (liftM (f item) : ExceptT Fault (StateM σ) β)) =
      liftM (items.mapM f) := by
  induction items with
  | nil => rfl
  | cons item rest ih =>
      rw [List.mapM_cons, List.mapM_cons, ih]
      cases f item with
      | error fault => rfl
      | ok first =>
          cases rest.mapM f <;> rfl

/-- A list that is gone through without a fault has a value for each item, in their order. -/
theorem forall₂_of_mapM {f : α → ExceptT Fault (StateM σ) β} {items : List α} {values : List β}
    {s after : σ} (ran : items.mapM f s = (.ok values, after)) :
    List.Forall₂ (fun item value => ∃ before later, f item before = (.ok value, later)) items values := by
  induction items generalizing s values with
  | nil =>
      cases ran
      exact .nil
  | cons item rest ih =>
      rw [List.mapM_cons] at ran
      obtain ⟨value, between, first, ran⟩ := of_bind_ok ran
      obtain ⟨others, _, second, ran⟩ := of_bind_ok ran
      cases ran
      exact .cons ⟨s, between, first⟩ (ih second)

theorem forall₂_of_mapM_lift {f : α → Except Fault β} {items : List α} {values : List β}
    (ran : items.mapM f = .ok values) :
    List.Forall₂ (fun item value => f item = .ok value) items values := by
  have steps : items.mapM (fun item => (liftM (f item) : ExceptT Fault (StateM Unit) β)) () =
      (.ok values, ()) := by
    rw [mapM_lift, ran]
    rfl
  refine (forall₂_of_mapM steps).imp fun item value made => ?_
  obtain ⟨_, _, made⟩ := made
  exact (Prod.mk.inj made).1

/-- What holds of a sequence of steps holds of questions, which have no state. -/
theorem of_except_bind_ok {ε : Type} {asked : Except ε α} {next : α → Except ε β} {result : β}
    (ran : (asked >>= next) = .ok result) : ∃ value, asked = .ok value ∧ next value = .ok result := by
  cases asked with
  | error fault => cases ran
  | ok value => exact ⟨value, rfl, ran⟩

theorem of_present {held : Option α} {value : α} (found : present held = .ok value) :
    held = some value := by
  cases held with
  | none => cases found
  | some held =>
      cases found
      rfl

end TypeAtlas
