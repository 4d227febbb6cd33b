import TypeAtlas.Program.Builder.Basic
import TypeAtlas.Proofs.Steps

/-!
Courses of building: what is to hold of a program from one step to the next, how the program may grow
meanwhile, and what is left to hold when a step fails. A step that keeps to a course is put together
from steps that do.
-/

namespace TypeAtlas

structure Course where
  holds : Program → Prop
  grows : Program → Program → Prop
  stopped : Program → Prop
  refl : ∀ p, grows p p
  trans : ∀ {p q r}, grows p q → grows q r → grows p r
  stop : ∀ {p}, holds p → stopped p

namespace Course

open Build

variable {α β : Type} {p : Program}

structure Keeps (c : Course) (p : Program) (step : Build α) (told : Program → α → Prop) : Prop where
  failed : ∀ fault after, step p = (.error fault, after) → c.stopped after
  result : ∀ value after, step p = (.ok value, after) →
    c.holds after ∧ c.grows p after ∧ told after value

variable {c : Course}

theorem Keeps.weaken {step : Build α} {told more : Program → α → Prop} (keeps : c.Keeps p step told)
    (wider : ∀ q value, c.holds q → c.grows p q → told q value → more q value) :
    c.Keeps p step more := by
  refine ⟨keeps.failed, ?_⟩
  intro value after ran
  obtain ⟨holds, grows, known⟩ := keeps.result value after ran
  exact ⟨holds, grows, wider after value holds grows known⟩

theorem Keeps.after {step : Build α} {told : Program → α → Prop} (keeps : c.Keeps p step told)
    {result : Except Fault α} {q : Program} (ran : step p = (result, q)) : c.stopped q := by
  cases result with
  | error fault => exact keeps.failed fault q ran
  | ok value => exact c.stop (keeps.result value q ran).1

theorem write {step : Build α} {value : α} {q : Program} {told : Program → α → Prop}
    (ran : step p = (.ok value, q)) (holds : c.holds q) (grows : c.grows p q) (known : told q value) :
    c.Keeps p step told := by
  refine ⟨?_, ?_⟩
  · intro fault after failed
    rw [ran] at failed
    cases failed
  · intro result after ended
    rw [ran] at ended
    cases ended
    exact ⟨holds, grows, known⟩

theorem pure {told : Program → α → Prop} {value : α} (holds : c.holds p) (known : told p value) :
    c.Keeps p (Pure.pure value) told :=
  write (pure_apply value p) holds (c.refl p) known

theorem throw (holds : c.holds p) (fault : Fault) {told : Program → α → Prop} :
    c.Keeps p (MonadExcept.throw fault) told := by
  refine ⟨?_, nofun⟩
  intro other after ran
  cases ran
  exact c.stop holds

theorem bind {step : Build α} {next : α → Build β} {told : Program → α → Prop}
    {more : Program → β → Prop} (first : c.Keeps p step told)
    (rest : ∀ value q, c.holds q → c.grows p q → told q value → c.Keeps q (next value) more) :
    c.Keeps p (step >>= next) more := by
  rcases ran : step p with ⟨fault | value, between⟩
  · have stopped : (step >>= next) p = (.error fault, between) := bind_error ran
    refine ⟨?_, ?_⟩
    · intro other after ended
      rw [stopped] at ended
      cases ended
      exact first.failed fault between ran
    · intro result after ended
      rw [stopped] at ended
      cases ended
  · obtain ⟨holds, grows, known⟩ := first.result value between ran
    have second := rest value between holds grows known
    have went : (step >>= next) p = next value between := bind_ok ran
    refine ⟨?_, ?_⟩
    · intro fault after ended
      rw [went] at ended
      exact second.failed fault after ended
    · intro result after ended
      rw [went] at ended
      obtain ⟨still, further, last⟩ := second.result result after ended
      exact ⟨still, c.trans grows further, last⟩

theorem lift {result : Except Fault α} {told : Program → α → Prop} (holds : c.holds p)
    (known : ∀ value, result = .ok value → told p value) : c.Keeps p (liftM result) told := by
  cases result with
  | error fault => exact throw holds fault
  | ok value => exact pure holds (known value rfl)

theorem lift_bind {result : Except Fault α} {next : α → Build β} {told : Program → β → Prop}
    (holds : c.holds p) (rest : ∀ value, result = .ok value → c.Keeps p (next value) told) :
    c.Keeps p (liftM result >>= next) told := by
  cases result with
  | error fault => exact throw holds fault
  | ok value => exact rest value rfl

theorem get_bind {next : Program → Build β} {told : Program → β → Prop}
    (rest : c.Keeps p (next p) told) : c.Keeps p (get >>= next) told := by
  refine ⟨?_, ?_⟩
  · intro fault after ran
    rw [bind_ok (get_apply p)] at ran
    exact rest.failed fault after ran
  · intro value after ran
    rw [bind_ok (get_apply p)] at ran
    exact rest.result value after ran

theorem ask {query : Program → Except Fault α} {told : Program → α → Prop} (holds : c.holds p)
    (known : ∀ value, query p = .ok value → told p value) : c.Keeps p (Build.ask query) told :=
  get_bind (lift holds known)

theorem ask_bind {query : Program → Except Fault α} {next : α → Build β}
    {told : Program → β → Prop} (holds : c.holds p)
    (rest : ∀ value, query p = .ok value → c.Keeps p (next value) told) :
    c.Keeps p (Build.ask query >>= next) told := by
  rw [Build.ask, bind_assoc]
  exact get_bind (lift_bind holds rest)

theorem map {step : Build α} {told : Program → α → Prop} {more : Program → β → Prop} (f : α → β)
    (keeps : c.Keeps p step told) (known : ∀ q value, told q value → more q (f value)) :
    c.Keeps p (f <$> step) more := by
  rw [map_eq]
  exact bind keeps fun value q holds _ given => pure holds (known q value given)

theorem discard {step : Build α} {told : Program → α → Prop} (keeps : c.Keeps p step told) :
    c.Keeps p (Functor.discard step) fun _ _ => True :=
  map _ keeps fun _ _ _ => trivial

theorem mapM {f : α → Build β} {told : Program → β → Prop} {items : List α}
    (stable : ∀ q r value, c.grows q r → told q value → told r value) (holds : c.holds p)
    (each : ∀ item ∈ items, ∀ q, c.holds q → c.grows p q → c.Keeps q (f item) told) :
    c.Keeps p (items.mapM f) fun q values => ∀ value ∈ values, told q value := by
  induction items generalizing p with
  | nil => exact pure holds (by simp)
  | cons item rest ih =>
      rw [List.mapM_cons]
      refine bind (each item (List.mem_cons_self ..) p holds (c.refl p)) fun first q holdsQ grows known => ?_
      refine bind (ih holdsQ fun later member r holdsR further =>
        each later (List.mem_cons_of_mem _ member) r holdsR (c.trans grows further)) ?_
      intro others r holdsR further all
      apply pure holdsR
      intro value member
      rcases List.mem_cons.mp member with rfl | member
      · exact stable q r value further known
      · exact all value member

theorem forM {f : α → Build PUnit} {items : List α} (still : Program → Prop) (holds : c.holds p)
    (begun : still p) (each : ∀ item ∈ items, ∀ q, c.holds q → c.grows p q → still q →
      c.Keeps q (f item) fun r _ => still r) :
    c.Keeps p (items.forM f) fun r _ => still r := by
  induction items generalizing p with
  | nil => exact pure holds begun
  | cons item rest ih =>
      change c.Keeps p (f item >>= fun _ => rest.forM f) _
      refine bind (each item (List.mem_cons_self ..) p holds (c.refl p) begun) ?_
      intro _ q holdsQ grows now
      exact ih holdsQ now fun later member r holdsR further =>
        each later (List.mem_cons_of_mem _ member) r holdsR (c.trans grows further)

end Course

end TypeAtlas
