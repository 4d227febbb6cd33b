import TypeAtlas.Proofs.Binding.History
import TypeAtlas.Proofs.Extract.Throughout

/-!
Extraction from the bindings that an earlier run left. The second run finds every binding that the
first one gave, so it does the same and gives none. What the two runs report may differ, since a new
binding is reported once.
-/

namespace TypeAtlas

variable {α β : Type}

def Bindings.Within (bindings later : Bindings) : Prop :=
  ∀ key binding, Table.get? bindings key = some binding → Table.get? later key = some binding

theorem Bindings.Within.refl (bindings : Bindings) : bindings.Within bindings := fun _ _ held => held

theorem Bindings.Within.trans {bindings later last : Bindings} (first : bindings.Within later)
    (second : later.Within last) : bindings.Within last :=
  fun key binding held => second key binding (first key binding held)

namespace Walk

/-- Two walks that differ in nothing but their bindings and what they reported. -/
structure Twins (w other : Walk) : Prop where
  registry : w.registry = other.registry
  scopes : w.scopes = other.scopes
  localNames : w.localNames = other.localNames
  unidentified : w.unidentified = other.unidentified

variable {w other : Walk}

theorem Twins.symm (twins : w.Twins other) : other.Twins w :=
  ⟨twins.registry.symm, twins.scopes.symm, twins.localNames.symm, twins.unidentified.symm⟩

theorem Twins.trans {last : Walk} (first : w.Twins other) (second : other.Twins last) : w.Twins last :=
  ⟨first.registry.trans second.registry, first.scopes.trans second.scopes,
    first.localNames.trans second.localNames, first.unidentified.trans second.unidentified⟩

theorem twins_bind (w : Walk) (home name : String) : w.Twins (w.bind home name).2 := by
  unfold bind
  dsimp only
  split <;> exact ⟨rfl, rfl, rfl, rfl⟩

variable (twins : w.Twins other)
include twins

theorem Twins.declareLocal (name : String) : (w.declareLocal name).Twins (other.declareLocal name) := by
  obtain ⟨registry, scopes, localNames, unidentified⟩ := twins
  unfold Walk.declareLocal
  rw [← scopes]
  cases inner : w.scopes with
  | nil => exact ⟨registry, scopes, localNames, unidentified⟩
  | cons scope outer => exact ⟨registry, rfl, localNames, unidentified⟩

theorem Twins.openScope : w.openScope.Twins other.openScope :=
  ⟨twins.registry, congrArg ([] :: ·) twins.scopes, twins.localNames, twins.unidentified⟩

theorem Twins.closeScope (name : String) : (w.closeScope name).Twins (other.closeScope name) := by
  obtain ⟨registry, scopes, localNames, unidentified⟩ := twins
  unfold Walk.closeScope
  rw [← scopes, ← localNames]
  cases inner : w.scopes with
  | nil => exact ⟨registry, scopes, localNames, unidentified⟩
  | cons declared outer =>
      cases declared <;> exact ⟨registry, rfl, rfl, unidentified⟩

end Walk

namespace Extract

/-- A step keeps the bindings, and from a twin walk that has all bindings the step leaves it comes to
the same result and binds nothing more. -/
structure Replays (step : Extract α) : Prop where
  keeps : ∀ w : Walk, w.bindings.Within (step w).2.bindings
  again : ∀ w other : Walk, w.Twins other → (step w).2.bindings.Within other.bindings →
    (step other).1 = (step w).1 ∧ (step w).2.Twins (step other).2 ∧
      (step other).2.bindings = other.bindings

theorem replays_bind_of {step : Extract α} {next : α → Extract β} (first : Replays step)
    (rest : ∀ w value after, step w = (.ok value, after) → Replays (next value)) :
    Replays (step >>= next) := by
  refine ⟨fun w => ?_, fun w other twins within => ?_⟩
  · have kept := first.keeps w
    rcases ran : step w with ⟨fault | value, after⟩ <;> rw [ran] at kept
    · rwa [bind_error ran]
    · rw [bind_ok ran]
      exact kept.trans ((rest w value after ran).keeps after)
  · have again := first.again w other twins
    rcases ran : step w with ⟨fault | value, after⟩ <;> rw [ran] at again <;>
      rcases replayed : step other with ⟨answer, later⟩ <;> rw [replayed] at again
    · rw [bind_error ran] at within ⊢
      obtain ⟨rfl, twins, same⟩ := again within
      rw [bind_error replayed]
      exact ⟨rfl, twins, same⟩
    · have second := rest w value after ran
      rw [bind_ok ran] at within ⊢
      obtain ⟨rfl, twins, same⟩ := again ((second.keeps after).trans within)
      rw [bind_ok replayed, ← same]
      exact second.again after later twins (same ▸ within)

theorem replays_of_blind {step : Extract α} (keeps : ∀ w, (step w).2.bindings = w.bindings)
    (blind : ∀ w other, w.Twins other →
      (step other).1 = (step w).1 ∧ (step w).2.Twins (step other).2) : Replays step := by
  refine ⟨fun w => ?_, fun w other twins _ => ?_⟩
  · rw [keeps w]
    exact .refl _
  · obtain ⟨result, twins⟩ := blind w other twins
    exact ⟨result, twins, keeps other⟩

theorem replays_get_bind {next : Walk → Extract α}
    (blind : ∀ w other, w.Twins other → next w = next other) (each : ∀ w, Replays (next w)) :
    Replays (get >>= next) := by
  refine ⟨fun w => (each w).keeps w, fun w other twins within => ?_⟩
  have same : (get >>= next : Extract α) other = next w other := by
    rw [blind w other twins]
    rfl
  rw [same]
  exact (each w).again w other twins within

theorem threads_replays : Threads Replays where
  bind_of := replays_bind_of
  lift _ := replays_of_blind (fun _ => rfl) fun _ _ twins => ⟨rfl, twins⟩
  reading blind := replays_get_bind fun w other twins => blind w other twins.registry
  emit _ := replays_of_blind (fun _ => rfl) fun _ _ twins => ⟨rfl, { twins with }⟩
  declareLocal name :=
    replays_of_blind (fun w => Walk.bindings_declareLocal w name)
      fun _ _ twins => ⟨rfl, twins.declareLocal name⟩
  count :=
    replays_of_blind (fun _ => rfl)
      fun _ _ twins => ⟨rfl, { twins with unidentified := congrArg (· + 1) twins.unidentified }⟩

/-- A name that is bound once is found again, whatever the registry holds by then. -/
theorem replays_given (home name : String) :
    Replays (modifyGet fun w => w.bind home name : Extract String) := by
  refine ⟨fun w => ?_, fun w other twins within => ?_⟩ <;> simp only [modifyGet_apply] at *
  · rw [Walk.bindings_bind]
    exact fun key binding held => Bindings.get?_bind_of_bound _ _ _ held
  · have held := within (home, name) (w.bind home name).1 (by
      rw [Walk.bindings_bind, Bindings.get?_bind_self, Walk.bind_fst])
    have found : other.bind home name = ((w.bind home name).1, other) := by
      simp [Walk.bind, Bindings.bind_of_bound _ held, Table.has, held]
    rw [found]
    exact ⟨rfl, (Walk.twins_bind w home name).symm.trans twins, rfl⟩

theorem replays_inScope (name : String) {step : Extract α} (inner : Replays step) :
    Replays (inScope name step) := by
  refine ⟨fun w => ?_, fun w other twins within => ?_⟩
  · rw [inScope_apply, Walk.bindings_closeScope]
    exact inner.keeps w.openScope
  · rw [inScope_apply, Walk.bindings_closeScope] at within
    obtain ⟨result, twins, same⟩ := inner.again w.openScope other.openScope twins.openScope within
    refine ⟨result, twins.closeScope name, ?_⟩
    rw [inScope_apply, Walk.bindings_closeScope, same]
    rfl

theorem result_isolated (step : Extract Unit) (w : Walk) :
    (isolated step w).1 = match (step w).1 with
      | .ok () => .ok none
      | .error (.diagnostic d) => .ok (some d)
      | .error fault => .error fault := by
  unfold isolated
  rcases step w with ⟨fault | _, after⟩
  · cases fault <;> rfl
  · rfl

theorem replays_isolated {step : Extract Unit} (inner : Replays step) : Replays (isolated step) := by
  refine ⟨fun w => ?_, fun w other twins within => ?_⟩
  · rw [walk_isolated]
    exact inner.keeps w
  · rw [walk_isolated] at within
    obtain ⟨result, after⟩ := inner.again w other twins within
    rw [walk_isolated, walk_isolated, result_isolated, result_isolated, result]
    exact ⟨rfl, after⟩

theorem pervades_replays : Pervades Replays :=
  { threads_replays with
    set := fun name node =>
      replays_of_blind (fun _ => rfl)
        fun _ _ twins => ⟨rfl, { twins with registry := congrArg (·.set name node) twins.registry }⟩
    reserve := fun name =>
      replays_of_blind (fun _ => rfl)
        fun _ _ twins => ⟨rfl, { twins with registry := congrArg (·.reserve name) twins.registry }⟩
    given := replays_given
    inScope := replays_inScope
    isolated := replays_isolated }

/-- A run reads nothing off its walk that twins do not share. -/
theorem replays_exportsOf {e : Engine} (all : e.Throughout Replays) (elapsed : Data) :
    Replays (exportsOf e elapsed) := by
  refine all.bind (all.lift _) fun exports => ?_
  refine all.bind (all.emit _) fun _ => ?_
  refine all.bind (all.exports exports _) fun tally => ?_
  refine replays_get_bind (fun w other twins => ?_) fun w => ?_
  · have graph : graphOf w = graphOf other := by
      rw [graphOf, graphOf, twins.registry, twins.localNames]
    have dangling : danglingOf w = danglingOf other := by
      rw [danglingOf, danglingOf, graph, twins.registry]
    dsimp only
    rw [graph, dangling, twins.unidentified]
  · have finish (stats : Stats) (x : Extraction) : Replays (do
        emit (completed stats elapsed)
        pure x) :=
      all.bind (all.emit _) fun _ => all.pure x
    dsimp only
    split
    · refine all.bind (all.emit _) fun _ => ?_
      split
      · exact all.bind (all.diagnose _) fun _ => finish _ _
      · exact finish _ _
    · exact finish _ _

def Alike (step other : Extract α) : Prop :=
  ∀ w, (step w).1 = (other w).1 ∧ (step w).2.bindings = (other w).2.bindings

theorem alike_bind (step : Extract α) {next other : α → Extract β}
    (rest : ∀ value, Alike (next value) (other value)) : Alike (step >>= next) (step >>= other) := by
  intro w
  rcases ran : step w with ⟨fault | value, after⟩
  · rw [bind_error ran, bind_error ran]
    exact ⟨rfl, rfl⟩
  · rw [bind_ok ran, bind_ok ran]
    exact rest value after

/-- The time that a run takes is only reported. -/
theorem alike_exportsOf (e : Engine) (elapsed again : Data) :
    Alike (exportsOf e elapsed) (exportsOf e again) := by
  refine alike_bind _ fun exports => alike_bind _ fun _ => alike_bind _ fun tally => ?_
  refine alike_bind _ fun w => ?_
  have finish (stats : Stats) (x : Extraction) :
      Alike (do emit (completed stats elapsed); pure x) (do emit (completed stats again); pure x) :=
    fun _ => ⟨rfl, rfl⟩
  dsimp only
  split
  · refine alike_bind _ fun _ => ?_
    split
    · exact alike_bind _ fun _ => finish _ _
    · exact finish _ _
  · exact finish _ _

end Extract

/-- A run from the bindings that a run of the same program left comes to the same end, and leaves the
bindings as they are, whether it succeeds or not. -/
theorem extractModule_replays (p : Program) (settings : Settings) (bindings : Bindings)
    (elapsed again : Data) :
    let first := extractModule p settings bindings elapsed
    let second := extractModule p settings first.2.bindings again
    second.1 = first.1 ∧ second.2.bindings = first.2.bindings := by
  intro first second
  have all := Engine.throughout_start Extract.pervades_replays p settings.extraction settings.libraries
  have alike := Extract.alike_exportsOf (Engine.start p settings.extraction settings.libraries)
    again elapsed { bindings := first.2.bindings }
  obtain ⟨result, -, same⟩ := (Extract.replays_exportsOf all elapsed).again { bindings }
    { bindings := first.2.bindings } ⟨rfl, rfl, rfl, rfl⟩ (.refl _)
  exact ⟨alike.1.trans result, alike.2.trans same⟩

end TypeAtlas
