import TypeAtlas.Proofs.Program.Before
import TypeAtlas.Proofs.Steps

/-!
Building steps keep the records of a program fitting. A step is followed from one program to the
next, with what is known of its result; how steps are put together is settled here once.
-/

namespace TypeAtlas

variable {manner : Manner} {ages : Ages} {now : Nat}

structure Program.Live (manner : Manner) (ages : Ages) (now : Nat) (p : Program) : Prop
    extends p.Fits manner ages now, ages.During now p

namespace Build

variable {α β : Type} {p : Program}

structure Keeps (manner : Manner) (ages : Ages) (now : Nat) (p : Program) (step : Build α)
    (told : Program → α → Prop) : Prop where
  live : (step p).2.Live manner ages now
  before : p.Before (step p).2
  result : ∀ value after, step p = (.ok value, after) → told after value

theorem Keeps.after {step : Build α} {told : Program → α → Prop}
    (keeps : Keeps manner ages now p step told) {q : Program} {result : Except Fault α}
    (ran : step p = (result, q)) : q.Live manner ages now ∧ p.Before q := by
  have live := keeps.live
  have before := keeps.before
  rw [ran] at live before
  exact ⟨live, before⟩

theorem Keeps.weaken {step : Build α} {told more : Program → α → Prop}
    (keeps : Keeps manner ages now p step told)
    (wider : ∀ q value, p.Before q → told q value → more q value) :
    Keeps manner ages now p step more := by
  refine ⟨keeps.live, keeps.before, ?_⟩
  intro value after ran
  exact wider after value (keeps.after ran).2 (keeps.result value after ran)

theorem Keeps.of_eq {step other : Build α} {told : Program → α → Prop} (same : step p = other p)
    (keeps : Keeps manner ages now p other told) : Keeps manner ages now p step told := by
  refine ⟨by rw [same]; exact keeps.live, by rw [same]; exact keeps.before, ?_⟩
  rw [same]
  exact keeps.result

theorem keeps_pure {told : Program → α → Prop} {value : α} (live : p.Live manner ages now)
    (holds : told p value) : Keeps manner ages now p (pure value) told := by
  refine ⟨live, Program.Before.refl p, ?_⟩
  intro result after ran
  cases ran
  exact holds

theorem keeps_bind {step : Build α} {next : α → Build β} {told : Program → α → Prop}
    {more : Program → β → Prop} (first : Keeps manner ages now p step told)
    (rest : ∀ value q, q.Live manner ages now → p.Before q → told q value →
      Keeps manner ages now q (next value) more) :
    Keeps manner ages now p (step >>= next) more := by
  rcases ran : step p with ⟨fault | value, after⟩
  · obtain ⟨live, before⟩ := first.after ran
    have stopped : (step >>= next) p = (.error fault, after) := bind_error ran
    refine ⟨by rwa [stopped], by rwa [stopped], ?_⟩
    intro result final ended
    rw [stopped] at ended
    cases ended
  · obtain ⟨live, before⟩ := first.after ran
    have second := rest value after live before (first.result value after ran)
    have went : (step >>= next) p = next value after := bind_ok ran
    refine ⟨by rw [went]; exact second.live, by rw [went]; exact before.trans second.before, ?_⟩
    intro result final ended
    rw [went] at ended
    exact second.result result final ended

theorem keeps_lift {result : Except Fault α} {told : Program → α → Prop}
    (live : p.Live manner ages now) (holds : ∀ value, result = .ok value → told p value) :
    Keeps manner ages now p (liftM result) told := by
  refine ⟨live, Program.Before.refl p, ?_⟩
  intro value after ran
  obtain ⟨ok, rfl⟩ := Prod.mk.inj ran
  exact holds value ok

theorem keeps_throw (live : p.Live manner ages now) (fault : Fault) {told : Program → α → Prop} :
    Keeps manner ages now p (throw fault) told := by
  refine ⟨live, Program.Before.refl p, ?_⟩
  intro value after ran
  cases ran

theorem keeps_lift_bind {result : Except Fault α} {next : α → Build β} {told : Program → β → Prop}
    (live : p.Live manner ages now)
    (rest : ∀ value, result = .ok value → Keeps manner ages now p (next value) told) :
    Keeps manner ages now p (liftM result >>= next) told := by
  cases result with
  | error fault => exact keeps_throw live fault
  | ok value => exact rest value rfl

theorem keeps_get_bind {next : Program → Build β} {told : Program → β → Prop}
    (rest : Keeps manner ages now p (next p) told) : Keeps manner ages now p (get >>= next) told :=
  rest.of_eq (bind_ok (get_apply p))

theorem keeps_ask {query : Program → Except Fault α} {told : Program → α → Prop}
    (live : p.Live manner ages now) (holds : ∀ value, query p = .ok value → told p value) :
    Keeps manner ages now p (ask query) told :=
  keeps_get_bind (keeps_lift live holds)

theorem keeps_ask_bind {query : Program → Except Fault α} {next : α → Build β}
    {told : Program → β → Prop} (live : p.Live manner ages now)
    (rest : ∀ value, query p = .ok value → Keeps manner ages now p (next value) told) :
    Keeps manner ages now p (ask query >>= next) told := by
  rw [ask, bind_assoc]
  exact keeps_get_bind (keeps_lift_bind live rest)

theorem keeps_map {step : Build α} {told : Program → α → Prop} {more : Program → β → Prop}
    (f : α → β) (keeps : Keeps manner ages now p step told)
    (holds : ∀ q value, told q value → more q (f value)) :
    Keeps manner ages now p (f <$> step) more := by
  rw [map_eq]
  exact keeps_bind keeps fun value q live before known => keeps_pure live (holds q value known)

theorem keeps_discard {step : Build α} {told : Program → α → Prop}
    (keeps : Keeps manner ages now p step told) :
    Keeps manner ages now p (discard step) fun _ _ => True :=
  keeps_map _ keeps fun _ _ _ => trivial

theorem keeps_mapM {f : α → Build β} {told : Program → β → Prop} {items : List α}
    (stable : ∀ q r value, q.Before r → told q value → told r value)
    (live : p.Live manner ages now)
    (each : ∀ item ∈ items, ∀ q, q.Live manner ages now → p.Before q →
      Keeps manner ages now q (f item) told) :
    Keeps manner ages now p (items.mapM f) fun q values => ∀ value ∈ values, told q value := by
  induction items generalizing p with
  | nil => exact keeps_pure live (by simp)
  | cons item rest ih =>
      rw [List.mapM_cons]
      refine keeps_bind (each item (by simp) p live (Program.Before.refl p)) ?_
      intro first q liveQ before known
      refine keeps_bind (ih liveQ ?_) ?_
      · intro later member r liveR after
        exact each later (by simp [member]) r liveR (before.trans after)
      · intro others r liveR after all
        apply keeps_pure liveR
        intro value member
        rcases List.mem_cons.mp member with rfl | member
        · exact stable q r value after known
        · exact all value member

theorem keeps_forM {f : α → Build PUnit} {items : List α} (live : p.Live manner ages now)
    (each : ∀ item ∈ items, ∀ q, q.Live manner ages now → p.Before q →
      Keeps manner ages now q (f item) fun _ _ => True) :
    Keeps manner ages now p (items.forM f) fun _ _ => True := by
  induction items generalizing p with
  | nil => exact keeps_pure live trivial
  | cons item rest ih =>
      change Keeps manner ages now p (f item >>= fun _ => rest.forM f) _
      refine keeps_bind (each item (by simp) p live (Program.Before.refl p)) ?_
      intro _ q liveQ before _
      refine ih liveQ ?_
      intro later member r liveR after
      exact each later (by simp [member]) r liveR (before.trans after)

end Build

end TypeAtlas
