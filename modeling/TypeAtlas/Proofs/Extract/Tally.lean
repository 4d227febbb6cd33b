import TypeAtlas.Proofs.Extract.Advance

/-!
What becomes of the roots of a run. A root is skipped, fails on its own or is counted as extracted, and
the result of a run says no more and no less than what became of each.
-/

namespace TypeAtlas.Extract

variable {e : Engine}

theorem of_attempt_ok {step : Extract Unit} {failed : Option Diagnostic} {w after : Walk}
    (ran : attempt e step w = (.ok failed, after)) :
    failed = none ∧ step w = (.ok (), after) ∨ e.settings.isolateRoots = true ∧
      ∃ error, failed = some error ∧ step w = (.error (.diagnostic error), after) := by
  unfold attempt isolated at ran
  split at ran
  · rename_i isolates
    dsimp only at ran
    split at ran
    · rename_i stepped
      cases ran
      exact Or.inl ⟨rfl, stepped⟩
    · rename_i error _ stepped
      cases ran
      exact Or.inr ⟨isolates, error, rfl, stepped⟩
    · cases ran
  · rw [map_eq] at ran
    obtain ⟨_, between, stepped, ended⟩ := of_bind_ok ran
    cases ended
    exact Or.inl ⟨rfl, stepped⟩

inductive Rooted (e : Engine) (tally : Tally) (w : Walk) (symbol : SymbolId) : Tally → Walk → Prop
  | skipped (unsuited : RootKind.of? (e.program.symbol symbol) = none) (event : Event) :
      Rooted e tally w symbol { tally with skipped := tally.skipped + 1 } (w.emit event)
  | failed {kind : RootKind} {error : Diagnostic} {between : Walk}
      (isolates : e.settings.isolateRoots = true)
      (suited : RootKind.of? (e.program.symbol symbol) = some kind)
      (ran : e.includeRoot symbol kind w = (.error (.diagnostic error), between)) (event : Event) :
      Rooted e tally w symbol
        { tally with
          failures := tally.failures ++ [{ name := (e.program.symbol symbol).name, kind, error }] }
        (between.emit event)
  | extracted {kind : RootKind} {between : Walk}
      (suited : RootKind.of? (e.program.symbol symbol) = some kind)
      (ran : e.includeRoot symbol kind w = (.ok (), between)) (event : Event) :
      Rooted e tally w symbol { tally with extracted := tally.extracted + 1 } (between.emit event)

theorem rooted_of_root {tally found : Tally} {exported : Option SymbolId} {w after : Walk}
    (ran : root e tally exported w = (.ok found, after)) :
    ∃ symbol, exported = some symbol ∧ Rooted e tally w symbol found after := by
  obtain ⟨symbol, same, asked, ran⟩ := of_bind_ok ran
  rw [lift_apply, Prod.mk.injEq] at asked
  obtain ⟨present, rfl⟩ := asked
  refine ⟨symbol, of_present present, ?_⟩
  cases sort : RootKind.of? (e.program.symbol symbol) with
  | none =>
      simp only [sort] at ran
      obtain ⟨_, emitted, told, ran⟩ := of_bind_ok ran
      cases told
      cases ran
      exact .skipped sort _
  | some kind =>
      simp only [sort] at ran
      obtain ⟨failed, between, attempted, ran⟩ := of_bind_ok ran
      rcases of_attempt_ok attempted with ⟨rfl, stepped⟩ | ⟨isolates, error, rfl, stepped⟩
      · obtain ⟨_, emitted, told, ran⟩ := of_bind_ok ran
        cases told
        cases ran
        exact .extracted sort stepped _
      · obtain ⟨_, emitted, told, ran⟩ := of_bind_ok ran
        cases told
        cases ran
        exact .failed isolates sort stepped _

/-- What successful roots preserve holds as long as none has failed. -/
theorem holds_of_roots (holds : Walk → Prop) (emits : ∀ w event, holds w → holds (w.emit event))
    {exports : List (Option SymbolId)}
    (roots : ∀ symbol, some symbol ∈ exports → ∀ kind,
      RootKind.of? (e.program.symbol symbol) = some kind → ∀ w after,
      e.includeRoot symbol kind w = (.ok (), after) → holds w → holds after)
    {tally found : Tally} {w after : Walk}
    (ran : exports.foldlM (root e) tally w = (.ok found, after))
    (begun : tally.failures = [] → holds w) (unfailed : found.failures = []) : holds after := by
  induction exports generalizing tally w with
  | nil =>
      cases ran
      exact begun unfailed
  | cons exported rest ih =>
      rw [List.foldlM_cons] at ran
      obtain ⟨between, middle, first, later⟩ := of_bind_ok ran
      obtain ⟨symbol, rfl, rooted⟩ := rooted_of_root first
      refine ih (fun symbol member => roots symbol (List.mem_cons_of_mem _ member)) later ?_
      cases rooted with
      | skipped _ event => exact fun unfailed => emits w event (begun unfailed)
      | failed _ _ _ _ => simp
      | extracted suited stepped event =>
          have kept := roots symbol (List.mem_cons_self ..) _ suited _ _ stepped
          exact fun unfailed => emits _ event (kept (begun unfailed))

/-- Failures are kept, and every export is counted once. -/
theorem counts_of_roots {exports : List (Option SymbolId)} {tally found : Tally} {w after : Walk}
    (ran : exports.foldlM (root e) tally w = (.ok found, after)) :
    tally.failures ⊆ found.failures ∧
      found.extracted + found.failures.length + found.skipped =
        tally.extracted + tally.failures.length + tally.skipped + exports.length := by
  induction exports generalizing tally w with
  | nil =>
      cases ran
      exact ⟨List.Subset.refl _, rfl⟩
  | cons exported rest ih =>
      rw [List.foldlM_cons] at ran
      obtain ⟨between, middle, first, ran⟩ := of_bind_ok ran
      obtain ⟨symbol, -, rooted⟩ := rooted_of_root first
      obtain ⟨kept, counted⟩ := ih ran
      cases rooted with
      | skipped _ _ => exact ⟨kept, by simp at counted ⊢; omega⟩
      | failed _ _ _ _ =>
          exact ⟨List.Subset.trans (List.subset_append_left _ _) kept, by simp at counted ⊢; omega⟩
      | extracted _ _ _ => exact ⟨kept, by simp at counted ⊢; omega⟩

structure Finished (e : Engine) (w : Walk) (exports : List (Option SymbolId)) (tally : Tally)
    (final : Walk) (x : Extraction) (after : Walk) : Prop where
  listed : (e.program.symbol e.program.moduleSymbol).exports.each = .ok exports
  ran : exports.foldlM (root e) {}
    (w.emit (started (e.program.symbol e.program.moduleSymbol).name exports.length)) = (.ok tally, final)
  graph : x.graph = graphOf final
  dangling : x.dangling = danglingOf final
  settled : danglingOf final = [] ∨ e.settings.strictRefs = false
  failures : x.failures = tally.failures
  extracted : x.stats.rootsExtracted = tally.extracted
  failed : x.stats.rootsFailed = tally.failures.length
  skipped : x.stats.rootsSkipped = tally.skipped
  registry : after.registry = final.registry
  bindings : after.bindings = final.bindings

theorem finished_of_exportsOf {elapsed : Data} {w after : Walk} {x : Extraction}
    (ran : exportsOf e elapsed w = (.ok x, after)) :
    ∃ exports tally final, Finished e w exports tally final x after := by
  obtain ⟨exports, same, listed, ran⟩ := of_bind_ok ran
  rw [lift_apply, Prod.mk.injEq] at listed
  obtain ⟨listed, rfl⟩ := listed
  obtain ⟨_, begun, told, ran⟩ := of_bind_ok ran
  cases told
  obtain ⟨tally, final, rooted, ran⟩ := of_bind_ok ran
  obtain ⟨seen, same, got, ran⟩ := of_bind_ok ran
  cases got
  refine ⟨exports, tally, final, ?_⟩
  dsimp only at ran
  split at ran
  · obtain ⟨_, told, reported, ran⟩ := of_bind_ok ran
    cases reported
    split at ran
    · cases ran
    · rename_i lenient
      obtain ⟨_, ended, reported, ran⟩ := of_bind_ok ran
      cases reported
      cases ran
      exact ⟨listed, rooted, rfl, rfl, Or.inr (Bool.eq_false_iff.mpr lenient), rfl, rfl, rfl, rfl, rfl, rfl⟩
  · rename_i none
    obtain ⟨_, ended, reported, ran⟩ := of_bind_ok ran
    cases reported
    cases ran
    exact ⟨listed, rooted, rfl, rfl, Or.inl (by simpa using none), rfl, rfl, rfl, rfl, rfl, rfl⟩

/-- A run whose roots all come to an end succeeds, unless it is strict and something dangles. -/
theorem exportsOf_ok {w final : Walk} {exports : List (Option SymbolId)} {tally : Tally}
    (listed : (e.program.symbol e.program.moduleSymbol).exports.each = .ok exports)
    (ran : exports.foldlM (root e) {} (w.emit
      (started (e.program.symbol e.program.moduleSymbol).name exports.length)) = (.ok tally, final))
    (settled : danglingOf final = [] ∨ e.settings.strictRefs = false) (elapsed : Data) :
    ∃ x after, exportsOf e elapsed w = (.ok x, after) := by
  have first : (liftM (e.program.symbol e.program.moduleSymbol).exports.each : Extract _) w =
      (.ok exports, w) := by
    rw [lift_apply, listed]
  have begun : (emit (started (e.program.symbol e.program.moduleSymbol).name exports.length)) w =
      (.ok (), _) := rfl
  have got : (get : Extract Walk) final = (.ok final, final) := rfl
  rw [exportsOf, bind_ok first, bind_ok begun, bind_ok ran, bind_ok got]
  split
  · rename_i dangles
    rcases settled with none | lenient
    · simp [none] at dangles
    · rw [lenient]
      exact ⟨_, _, rfl⟩
  · exact ⟨_, _, rfl⟩

theorem Finished.split {w final after : Walk} {exports before rest : List (Option SymbolId)}
    {symbol : SymbolId} {tally : Tally} {x : Extraction}
    (finished : Finished e w exports tally final x after)
    (split : exports = before ++ some symbol :: rest) :
    ∃ earlier begun found between,
      before.foldlM (root e) {}
        (w.emit (started (e.program.symbol e.program.moduleSymbol).name exports.length)) =
          (.ok earlier, begun) ∧
      Rooted e earlier begun symbol found between ∧
      rest.foldlM (root e) found between = (.ok tally, final) := by
  have ran := finished.ran
  rw [split, List.foldlM_append] at ran
  obtain ⟨earlier, begun, first, ran⟩ := of_bind_ok ran
  rw [List.foldlM_cons] at ran
  obtain ⟨found, between, stepped, ran⟩ := of_bind_ok ran
  obtain ⟨other, same, rooted⟩ := rooted_of_root stepped
  cases same
  rw [← split] at first
  exact ⟨earlier, begun, found, between, first, rooted, ran⟩

end TypeAtlas.Extract
