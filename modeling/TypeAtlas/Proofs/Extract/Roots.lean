import TypeAtlas.Proofs.Extract.Advance
import TypeAtlas.Proofs.Extract.Covering

/-!
Roots that succeed leave a walk covered and no new name reserved.
-/

namespace TypeAtlas

open Node (mentions mentionsAll)

variable {α β : Type}

namespace Extract

structure Clean (step : Extract α) : Prop extends Settles step where
  covered : ∀ (w : Walk) value after, step w = (.ok value, after) → w.Covered → after.Covered

theorem clean_bind_of {step : Extract α} {next : α → Extract β} (first : Clean step)
    (settles : Settles (step >>= next))
    (rest : ∀ value (w : Walk) result after, next value w = (.ok result, after) →
      w.Covered → after.Covered) : Clean (step >>= next) := by
  refine ⟨settles, ?_⟩
  intro w value final ran covered
  obtain ⟨between, after, started, ended⟩ := of_bind_ok ran
  have covered := first.covered w between after started covered
  exact rest between after value final ended covered

theorem clean_bind {step : Extract α} {next : α → Extract β} (first : Clean step)
    (rest : ∀ value, Clean (next value)) : Clean (step >>= next) :=
  clean_bind_of first (settles_bind first.toSettles fun value => (rest value).toSettles)
    fun value => (rest value).covered

theorem clean_of_same {step : Extract α} (same : ∀ w, (step w).2 = w) : Clean step := by
  refine ⟨settles_of_orderly (orderly_of_same same), ?_⟩
  intro w value final ran covered
  have final_eq : final = w := by rw [← same w, ran]
  rwa [final_eq]

theorem clean_pure (value : α) : Clean (pure value) := clean_of_same fun _ => rfl

theorem clean_lift (result : Except Fault α) : Clean (liftM result) := clean_of_same fun _ => rfl

theorem clean_diagnose (d : Diagnostic) : Clean (diagnose d : Extract α) := clean_of_same fun _ => rfl

theorem clean_emit (event : Event) : Clean (emit event) := by
  refine ⟨settles_emit event, ?_⟩
  intro w value after ran covered
  cases ran
  exact covered.of_same_registry (Walk.grows_emit w event).toExtends rfl

theorem clean_entry (name : String) {body : Extract Node} (covers : Covers [] body mentions)
    (settles : Settles (inScope name do set name (← body))) :
    Clean (inScope name do set name (← body)) := by
  refine ⟨settles, ?_⟩
  intro w value final ran covered
  obtain ⟨inner, entered, rfl⟩ := of_inScope_ok ran
  obtain ⟨node, built, made, written⟩ := of_bind_ok entered
  cases written
  have opened : w.openScope.Covered := covered
  obtain ⟨covered, knows⟩ := covers.covered _ node built made opened (List.cons_ne_nil _ _) (by simp)
  rw [Walk.closeScope_set]
  exact covered.close knows

theorem clean_scoped (name : String) {step : Extract Node} {next : Node → Extract Unit}
    (covers : Covers [] step mentions) (settles : Settles (inScope name step >>= next))
    (ends : ∀ node w, next node w = (.ok (), w) ∨ next node w = (.ok (), w.set name node)) :
    Clean (inScope name step >>= next) := by
  refine ⟨settles, ?_⟩
  intro w value final ran covered
  obtain ⟨node, after, entered, ended⟩ := of_bind_ok ran
  obtain ⟨inner, made, rfl⟩ := of_inScope_ok entered
  have opened : w.openScope.Covered := covered
  obtain ⟨covered, knows⟩ := covers.covered _ node inner made opened (List.cons_ne_nil _ _) (by simp)
  rcases ends node (inner.closeScope name) with same | written
  · rw [same] at ended
    cases ended
    exact covered.closeScope name
  · rw [written] at ended
    cases ended
    exact covered.close knows

/-- A step whose result mentions registered names only. -/
structure Grounded (step : Extract Node) : Prop extends Clean step where
  registered : ∀ (w : Walk) node after, step w = (.ok node, after) →
    ∀ name ∈ node.mentions, after.registry.has name = true

/-- Writing a node that mentions registered names only. -/
theorem clean_setGrounded {value : Extract Node} (grounded : Grounded value) (name : String)
    (symbol : Option SymbolId) (p : Program) : Clean (do
      let value ← value
      let comment ← p.comment symbol
      set name (.defaultExport value comment)) := by
  refine ⟨settles_bind grounded.toSettles fun value =>
    settles_bind (settles_lift _) fun comment => settles_set name _, ?_⟩
  intro w _ final ran covered
  obtain ⟨node, after, started, ended⟩ := of_bind_ok ran
  obtain ⟨comment, same, asked, ended⟩ := of_bind_ok ended
  obtain rfl := (Prod.mk.inj asked).2
  cases ended
  apply (grounded.covered w node after started covered).set
  intro mentioned member
  rw [Node.mentions_defaultExport] at member
  exact Or.inl (grounded.registered w node after started mentioned member)

end Extract

namespace Engine

open Extract

section Roots

variable {e : Engine} (covering : e.Covering) (ordered : e.Orderly)
include covering ordered

theorem clean_includeExportedType (type : TypeId) : Clean (e.includeExportedType type) := by
  have settles := settles_includeExportedType ordered type
  revert settles
  unfold includeExportedType
  dsimp only
  split
  · exact fun _ => clean_diagnose _
  · refine fun settles => clean_scoped _ (covers_includeType covering type) settles ?_
    intro node w
    cases node with
    | ref r => exact Or.inl rfl
    | _ => exact Or.inr rfl

omit covering ordered in
theorem clean_declaredName (site : SiteId) : Clean (e.declaredName site) := by
  unfold declaredName
  dsimp only
  split
  · exact clean_pure _
  · exact clean_diagnose _

theorem clean_includeExportedAlias (site : SiteId) : Clean (e.includeExportedAlias site) := by
  refine clean_bind (clean_declaredName site) fun name => ?_
  split
  · exact clean_diagnose _
  · rename_i written _
    refine clean_entry name ?_ (settles_aliasEntry ordered site written name)
    refine covers_bind (covers_reserve name) fun _ => ?_
    refine covers_bind (covers_lift _) fun comment => ?_
    refine covers_bind (covers_declaredTypeParameters covering site) fun types => ?_
    have covers {known : List String} : Covers known (e.includeAnnotation (some written)) mentions :=
      covers_includeAnnotation covering (some written)
    refine covers_bind covers fun child => ?_
    apply covers_pure
    intro mentioned member
    simp at member ⊢
    grind

theorem clean_includeExportedValue (site : SiteId) : Clean (e.includeExportedValue site) := by
  have entry (name : String) (type : Option TypeId) :
      Clean (inScope name do Extract.set name (← e.exportedValue site type)) := by
    refine clean_entry name ?_ (settles_entry name (orderly_exportedValue ordered site type))
    refine covers_bind (covers_lift _) fun comment => ?_
    refine covers_bind (covers_lift _) fun type => ?_
    exact covers_bind (covers_includeType covering type) fun value => covers_pure (by simp)
  unfold includeExportedValue
  refine clean_bind (clean_declaredName site) fun name => ?_
  dsimp only
  split
  · exact clean_bind (clean_lift _) fun type => entry name type
  · exact clean_bind (clean_lift _) fun type => entry name type
  · exact clean_bind (clean_diagnose _) fun type => entry name type

theorem clean_includeExportedFunction (site : Option SiteId) (name : String) :
    Clean (e.includeExportedFunction site name) := by
  refine clean_bind (clean_lift _) fun found => ?_
  refine clean_bind (clean_lift _) fun type => ?_
  refine clean_bind (clean_lift _) fun signatures => ?_
  split
  · exact clean_diagnose _
  · rename_i signature _
    refine clean_entry name ?_ (settles_entry name (orderly_exportedFunction ordered site signature))
    refine covers_bind (covers_includeSignature covering signature) fun callable => ?_
    refine covers_bind (covers_lift _) fun site => ?_
    refine covers_bind (covers_lift _) fun comment => ?_
    apply covers_pure
    intro mentioned member
    simp at member ⊢
    grind

theorem clean_exportedExpression (type : Option TypeId) :
    Clean (inScope RootKind.syntheticName do
      Extract.set RootKind.syntheticName (← e.exportedExpression type)) := by
  refine clean_entry _ ?_ (settles_entry _ (orderly_exportedExpression ordered type))
  refine covers_bind (covers_lift _) fun type => ?_
  exact covers_bind (covers_includeInline covering type) fun value => covers_pure (by simp)

omit covering ordered e in
/-- A reference to an entry that the step before has written. -/
theorem grounded_syntheticRef {first : Extract Unit} (clean : Clean first)
    (written : ∀ w after, first w = (.ok (), after) → after.Stands RootKind.syntheticName) :
    Grounded (do first; syntheticRef) := by
  have opened {w final : Walk} {node : Node} (ran : (do first; syntheticRef) w = (.ok node, final)) :
      first w = (.ok (), final) ∧ node = .ref { name := RootKind.syntheticName } := by
    obtain ⟨_, after, started, ended⟩ := of_bind_ok ran
    have reserved : after.reserve RootKind.syntheticName = after := by
      rw [Walk.reserve, Registry.reserve_of_has (written w after started).has]
    rw [syntheticRef, bind_ok (resolve_apply _ _ _ _), reserved] at ended
    cases ended
    exact ⟨started, rfl⟩
  refine ⟨⟨settles_syntheticRef clean.toSettles written, ?_⟩, ?_⟩
  · intro w node final ran covered
    exact clean.covered w () final (opened ran).1 covered
  · intro w node final ran name member
    obtain ⟨started, rfl⟩ := opened ran
    rw [Node.mentions_ref] at member
    obtain rfl : name = RootKind.syntheticName := by simpa using member
    exact (written w final started).has

def DefaultsNameless (p : Program) : Prop :=
  ∀ site expression, (p.site site).expression = some expression → (p.site expression).symbol = none

theorem grounded_defaultValue (nameless : DefaultsNameless e.program) (site : SiteId) :
    Grounded (e.defaultValue site) := by
  have registered : e.DefaultsRegistered := by
    intro site expression symbol held named
    rw [nameless site expression held] at named
    cases named
  have settles := settles_defaultValue ordered registered site
  revert settles
  unfold defaultValue
  dsimp only
  split
  · intro _
    refine grounded_syntheticRef (clean_includeExportedFunction covering ordered _ _) ?_
    exact fun w after ran => (made_of_includeExportedFunction ran).choose_spec.stands
  · split
    · refine fun _ => ⟨clean_diagnose _, ?_⟩
      intro w node after ran
      cases ran
    · rename_i expression held
      rw [nameless site expression held]
      intro settles
      have grounded (type : Option TypeId) := grounded_syntheticRef
        (clean_exportedExpression covering ordered type) fun w after ran => (made_of_entry ran).stands
      refine ⟨clean_bind_of (clean_lift _) settles fun type => (grounded type).covered, ?_⟩
      intro w node final ran
      obtain ⟨type, after, started, ended⟩ := of_bind_ok ran
      exact (grounded type).registered after node final ended

theorem clean_includeRoot (nameless : DefaultsNameless e.program) (symbol : SymbolId)
    (kind : RootKind) : Clean (e.includeRoot symbol kind) := by
  unfold includeRoot
  dsimp only
  split
  · refine clean_bind (clean_lift _) fun declared => ?_
    exact clean_bind (clean_lift _) fun type => clean_includeExportedType covering ordered type
  · split
    · exact clean_diagnose _
    · cases kind with
      | default => exact clean_setGrounded (grounded_defaultValue covering ordered nameless _) _ _ _
      | named => exact clean_includeExportedAlias covering ordered _
      | function => exact clean_includeExportedFunction covering ordered _ _
      | type => exact clean_includeExportedValue covering ordered _
      | value => exact clean_includeExportedValue covering ordered _

end Roots

end Engine

end TypeAtlas
