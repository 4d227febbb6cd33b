import TypeAtlas.Proofs.Extract.Isolation

/-!
Roots that leave the entries of other names alone.
-/

namespace TypeAtlas

variable {α β : Type} {manner : Manner} {ages : Ages} {now : Nat} {e : Engine}

namespace Extract

def Spares (name : String) (step : Extract α) : Prop :=
  ∀ w node, w.registry.Filled name node → (step w).2.registry.Filled name node

variable {name : String}

theorem spares_of_orderly {step : Extract α} (ordered : Orderly step) : Spares name step :=
  fun w node filled => (ordered w).grows.filled name node filled

theorem spares_bind_of {step : Extract α} {next : α → Extract β} (first : Spares name step)
    (rest : ∀ w value after, step w = (.ok value, after) → Spares name (next value)) :
    Spares name (step >>= next) := by
  intro w node filled
  have between := first w node filled
  rcases ran : step w with ⟨fault | value, after⟩
  · rw [bind_error ran]
    rwa [ran] at between
  · rw [bind_ok ran]
    rw [ran] at between
    exact rest w value after ran after node between

theorem composes_spares : Composes (Spares name) where
  bind_of := spares_bind_of
  same same := spares_of_orderly (orderly_of_same same)
  emit event := spares_of_orderly (orderly_emit event)
  declareLocal name := spares_of_orderly (orderly_declareLocal name)
  count := spares_of_orderly Engine.composes.count

theorem spares_set {other : String} (distinct : other ≠ name) (node : Node) :
    Spares name (set other node) :=
  fun _ _ filled => Registry.filled_set_of_ne node distinct filled

theorem spares_inScope (other : String) {step : Extract α} (spares : Spares name step) :
    Spares name (inScope other step) := by
  intro w node filled
  have inner := spares w.openScope node filled
  rw [inScope_apply, Walk.registry_closeScope]
  exact inner

end Extract

namespace Engine

open Extract

section Spares

variable {name : String} (ordered : e.Orderly)
include ordered

theorem spares_includeExportedType {type : TypeId} {other : String}
    (declares : e.program.Declares type other) (distinct : other ≠ name) :
    Spares name (e.includeExportedType type) := by
  obtain ⟨⟨symbol, held, -, called⟩, -⟩ := declares
  unfold includeExportedType
  simp only [held, called]
  refine composes_spares.bind (spares_inScope other
    (spares_of_orderly (orderly_includeType ordered type))) fun node => ?_
  split
  · exact composes_spares.pure ()
  · exact spares_set distinct _

theorem rootWays_spares : e.RootWays (Spares name) (· ≠ name) (· ≠ name) :=
  { (orderly_ways ordered).imp composes_spares spares_of_orderly with
    includeType := fun type => spares_of_orderly (orderly_includeType ordered type)
    inScope := spares_inScope
    reserve := fun other _ _ _ filled => Registry.filled_reserve filled other
    set := fun _ node distinct _ => spares_set distinct node
    exportedType := spares_includeExportedType ordered }

end Spares

end Engine

namespace Extract

theorem spares_roots (fits : e.program.Fits manner ages now) (ordered : e.Orderly)
    {exports : List (Option SymbolId)} (tally : Tally)
    (others : ∀ symbol, some symbol ∈ exports → (e.program.symbol symbol).name ≠ RootKind.defaultName) :
    Spares RootKind.defaultName (exports.foldlM (root e) tally) := by
  refine composes_spares.roots (fun spares w => walk_isolated _ w ▸ spares w) ?_ tally
  intro symbol member kind suited
  have distinct := others symbol member
  have other : kind ≠ .default := by
    rintro rfl
    exact distinct (Engine.of?_cases suited)
  have owned : (e.program.symbol symbol).Owned (· ≠ RootKind.defaultName)
      (· ≠ RootKind.defaultName) := by
    unfold Symbol.Owned
    split <;> exact distinct
  exact (Engine.rootWays_spares ordered).includeRoot fits suited (fun _ => owned)
    fun default => absurd default other

end Extract

theorem Registry.parameterCount?_of_filled {r after : Registry} {name : String} {node : Node}
    (filled : r.Filled name node) (later : after.Filled name node) :
    after.parameterCount? name = r.parameterCount? name := by
  unfold parameterCount?
  rw [filled.1, filled.2, later.1, later.2]

theorem Walk.Made.later {w after : Walk} {name : String} {body : Extract Node} (made : w.Made name body)
    (kept : ∀ node, w.registry.Filled name node → after.registry.Filled name node) :
    after.Made name body := by
  obtain ⟨node, start, built, ran, filled⟩ := made
  exact ⟨node, start, built, ran, kept node filled⟩

end TypeAtlas
