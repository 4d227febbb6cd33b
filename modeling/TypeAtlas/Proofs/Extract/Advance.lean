import TypeAtlas.Proofs.Extract.Orderly

/-!
Roots take nothing back, however they end: no name, binding or entry is lost, although a root may write
over an entry. One that succeeds leaves no new name reserved, except that a default export may refer
to a name without an entry.
-/

namespace TypeAtlas

variable {α β : Type}

namespace Walk

/-- An entry of the name is there, with its body. -/
def Stands (w : Walk) (name : String) : Prop := ∃ node, w.registry.Filled name node

/-- The body of the entry is what a step has made at some time. -/
def Made (w : Walk) (name : String) (body : Extract Node) : Prop :=
  ∃ node start built, body start = (.ok node, built) ∧ w.registry.Filled name node

theorem Made.stands {w : Walk} {name : String} {body : Extract Node} (made : w.Made name body) :
    w.Stands name := by
  obtain ⟨node, _, _, _, filled⟩ := made
  exact ⟨node, filled⟩

theorem Stands.has {w : Walk} {name : String} (stands : w.Stands name) :
    w.registry.has name = true := by
  obtain ⟨node, filled⟩ := stands
  exact Registry.has_of_get? filled.1

theorem Extends.stands {w after : Walk} (extended : w.Extends after) {name : String}
    (stands : w.Stands name) : after.Stands name := by
  obtain ⟨node, filled⟩ := stands
  exact extended.lasting name node filled

theorem stands_of_has {w : Walk} {name : String} (known : w.registry.has name = true) :
    w.Stands name ∨ w.registry.isPlaceholder name = true := by
  obtain ⟨node, found⟩ := Option.isSome_iff_exists.mp known
  cases reserved : w.registry.isPlaceholder name with
  | true => exact Or.inr rfl
  | false => exact Or.inl ⟨node, found, reserved⟩

end Walk

namespace Extract

def Advances (step : Extract α) : Prop := ∀ w : Walk, w.Extends (step w).2

/-- A step that besides leaves no new name reserved when it succeeds. -/
structure Settles (step : Extract α) : Prop where
  advances : Advances step
  settled : ∀ (w : Walk) value after, step w = (.ok value, after) → w.Settled after

theorem Advances.after {step : Extract α} (advances : Advances step) {w after : Walk}
    {result : Except Fault α} (ran : step w = (result, after)) : w.Extends after := by
  have extended := advances w
  rwa [ran] at extended

theorem advances_bind_of {step : Extract α} {next : α → Extract β} (first : Advances step)
    (rest : ∀ w value after, step w = (.ok value, after) → Advances (next value)) :
    Advances (step >>= next) := by
  intro w
  rcases ran : step w with ⟨fault | value, after⟩
  · rw [bind_error ran]
    exact first.after ran
  · rw [bind_ok ran]
    exact (first.after ran).trans (rest w value after ran after)

theorem advances_of_orderly {step : Extract α} (ordered : Orderly step) : Advances step :=
  fun w => (ordered w).grows.toExtends

theorem composes_advances : Composes Advances where
  bind_of := advances_bind_of
  same same := advances_of_orderly (orderly_of_same same)
  emit event := advances_of_orderly (orderly_emit event)
  declareLocal name := advances_of_orderly (orderly_declareLocal name)
  count := advances_of_orderly Engine.composes.count

theorem advances_bind {step : Extract α} {next : α → Extract β} (first : Advances step)
    (rest : ∀ value, Advances (next value)) : Advances (step >>= next) :=
  composes_advances.bind first rest

theorem advances_reserve (name : String) : Advances (reserve name) := fun w => Walk.extends_reserve w name

theorem advances_inScope (name : String) {step : Extract α} (advances : Advances step) :
    Advances (inScope name step) :=
  fun w => (advances w.openScope).closeScope name

theorem settles_of_orderly {step : Extract α} (ordered : Orderly step) : Settles step :=
  ⟨advances_of_orderly ordered, fun w _ _ ran => ((ordered w).result ran).2⟩

theorem settles_pure (value : α) : Settles (pure value) := settles_of_orderly (orderly_pure value)

theorem settles_lift (result : Except Fault α) : Settles (liftM result) :=
  settles_of_orderly (orderly_lift result)

theorem settles_diagnose (d : Diagnostic) : Settles (diagnose d : Extract α) :=
  settles_of_orderly (orderly_diagnose d)

theorem settles_emit (event : Event) : Settles (emit event) := settles_of_orderly (orderly_emit event)

theorem settles_set (name : String) (node : Node) : Settles (set name node) := by
  refine ⟨fun w => Walk.extends_set w name node, ?_⟩
  intro w value after ran
  cases ran
  exact Walk.settled_set w name node

/-- The second step may go by what the first has left, as long as it takes nothing back anyway. -/
theorem settles_bind_of {step : Extract α} {next : α → Extract β} (first : Settles step)
    (rest : ∀ value, Advances (next value))
    (ends : ∀ (w : Walk) value after, step w = (.ok value, after) → ∀ result final,
      next value after = (.ok result, final) → after.Settled final) : Settles (step >>= next) := by
  refine ⟨advances_bind first.advances rest, ?_⟩
  intro w result final ran
  obtain ⟨value, after, started, ended⟩ := of_bind_ok ran
  exact (first.settled w value after started).trans (ends w value after started result final ended)

theorem settles_bind {step : Extract α} {next : α → Extract β} (first : Settles step)
    (rest : ∀ value, Settles (next value)) : Settles (step >>= next) :=
  settles_bind_of first (fun value => (rest value).advances)
    fun _ value after _ => (rest value).settled after

theorem settles_inScope (name : String) {step : Extract α} (settles : Settles step) :
    Settles (inScope name step) := by
  refine ⟨advances_inScope name settles.advances, ?_⟩
  intro w value final ran other reserved
  obtain ⟨inner, entered, rfl⟩ := of_inScope_ok ran
  rw [Walk.registry_closeScope] at reserved
  exact settles.settled w.openScope value inner entered other reserved

theorem settles_entry (name : String) {body : Extract Node} (ordered : Orderly body) :
    Settles (inScope name do set name (← body)) :=
  settles_inScope name (settles_bind (settles_of_orderly ordered) fun node => settles_set name node)

theorem settles_reservedEntry (name : String) {body : Extract Node} (ordered : Orderly body) :
    Settles (inScope name do set name (← (reserve name >>= fun _ => body))) := by
  apply settles_inScope
  refine ⟨advances_bind (advances_bind (advances_reserve name) fun _ => advances_of_orderly ordered)
    fun node => (settles_set name node).advances, ?_⟩
  intro w _ final ran
  obtain ⟨node, built, made, written⟩ := of_bind_ok ran
  obtain ⟨_, reserved, begun, made⟩ := of_bind_ok made
  cases begun
  cases written
  exact Walk.settled_of_reserve ((ordered _).result made).2 node

/-- A reference to a registered name reserves nothing. -/
theorem settled_resolve {name : String} {types : List Node} {live : Option TypeId} {w after : Walk}
    {r : Node.Ref Node} (known : w.registry.has name = true)
    (ran : resolve name types live w = (.ok r, after)) : w.Settled after :=
  ((keeps_resolve known types live).result ran).2

theorem made_of_entry {name : String} {body : Extract Node} {w after : Walk}
    (ran : inScope name (do set name (← body)) w = (.ok (), after)) : after.Made name body := by
  obtain ⟨inner, entered, rfl⟩ := of_inScope_ok ran
  obtain ⟨node, built, made, written⟩ := of_bind_ok entered
  cases written
  refine ⟨node, w.openScope, built, made, ?_⟩
  rw [Walk.registry_closeScope]
  exact Registry.filled_set_self built.registry name node

end Extract

namespace Engine

open Extract

def DefaultsRegistered (e : Engine) : Prop :=
  ∀ site expression symbol, (e.program.site site).expression = some expression →
    (e.program.site expression).symbol = some symbol → ∀ (w after : Walk),
      e.includeNamedDefault symbol w = (.ok (), after) →
        after.registry.has (e.program.symbol symbol).name = true

section Roots

variable {e : Engine}

theorem made_of_includeExportedFunction {site : Option SiteId} {name : String} {w after : Walk}
    (ran : e.includeExportedFunction site name w = (.ok (), after)) :
    ∃ signature, after.Made name (e.exportedFunction site signature) := by
  obtain ⟨found, asked, _, ran⟩ := of_bind_ok ran
  obtain ⟨type, typed, _, ran⟩ := of_bind_ok ran
  obtain ⟨signatures, listed, _, ran⟩ := of_bind_ok ran
  cases signatures with
  | nil => cases ran
  | cons signature rest => exact ⟨signature, made_of_entry ran⟩

theorem orderly_declaredName (site : SiteId) : Extract.Orderly (e.declaredName site) := by
  unfold declaredName
  dsimp only
  split
  · exact orderly_pure _
  · exact orderly_diagnose _

variable (ordered : e.Orderly)
include ordered

theorem advances_includeRef (type : TypeId) (name : String) (live : Option TypeId) :
    Advances (e.includeRef type name live) := by
  refine advances_bind (advances_of_orderly (orderly_visitAll ordered _)) fun types => ?_
  refine advances_bind (advances_of_orderly (orderly_normalizeArguments _ _ _ _)) fun types => ?_
  exact advances_bind (advances_reserve name) fun _ => composes_advances.pure _

theorem settles_includeExportedType (type : TypeId) : Settles (e.includeExportedType type) := by
  unfold includeExportedType
  dsimp only
  split
  · exact settles_diagnose _
  · refine settles_bind (settles_inScope _
      (settles_of_orderly (orderly_includeType ordered type))) fun node => ?_
    split
    · exact settles_pure ()
    · exact settles_set _ _

/-- An exported alias, once its name is reserved. -/
theorem orderly_aliasParts (site written : SiteId) : Extract.Orderly (do
    let comment ← e.program.comment (e.program.site site).symbol
    let types ← e.declaredTypeParameters site
    let child ← e.includeAnnotation (some written)
    pure (Node.aliasOf types child comment)) := by
  refine orderly_bind (orderly_lift _) fun comment => ?_
  refine orderly_bind ((orderly_visits ordered).declaredTypeParameters site) fun types => ?_
  have annotation := Visits.includeAnnotation (orderly_visits ordered) (some written)
  exact orderly_bind annotation fun child => orderly_pure _

theorem settles_aliasEntry (site written : SiteId) (name : String) :
    Settles (inScope name do Extract.set name (← e.exportedAlias site written name)) :=
  settles_reservedEntry name (orderly_aliasParts ordered site written)

theorem settles_includeExportedAlias (site : SiteId) : Settles (e.includeExportedAlias site) := by
  refine settles_bind (settles_of_orderly (orderly_declaredName site)) fun name => ?_
  split
  · exact settles_diagnose _
  · rename_i written _
    exact settles_aliasEntry ordered site written name

theorem orderly_exportedValue (site : SiteId) (type : Option TypeId) :
    Extract.Orderly (e.exportedValue site type) := by
  refine orderly_bind (orderly_lift _) fun comment => ?_
  refine orderly_bind (orderly_lift _) fun type => ?_
  exact orderly_bind (orderly_includeType ordered type) fun value => orderly_pure _

theorem settles_includeExportedValue (site : SiteId) : Settles (e.includeExportedValue site) := by
  have entry (name : String) (type : Option TypeId) :
      Settles (inScope name do Extract.set name (← e.exportedValue site type)) :=
    settles_entry name (orderly_exportedValue ordered site type)
  unfold includeExportedValue
  refine settles_bind (settles_of_orderly (orderly_declaredName site)) fun name => ?_
  dsimp only
  split
  · exact settles_bind (settles_lift _) fun type => entry name type
  · exact settles_bind (settles_lift _) fun type => entry name type
  · exact settles_bind (settles_diagnose _) fun type => entry name type

theorem orderly_exportedFunction (site : Option SiteId) (signature : Option SignatureId) :
    Extract.Orderly (e.exportedFunction site signature) := by
  refine orderly_bind ((orderly_visits ordered).includeSignature signature) fun callable => ?_
  refine orderly_bind (orderly_lift _) fun site => ?_
  exact orderly_bind (orderly_lift _) fun comment => orderly_pure _

theorem settles_includeExportedFunction (site : Option SiteId) (name : String) :
    Settles (e.includeExportedFunction site name) := by
  refine settles_bind (settles_lift _) fun found => ?_
  refine settles_bind (settles_lift _) fun type => ?_
  refine settles_bind (settles_lift _) fun signatures => ?_
  split
  · exact settles_diagnose _
  · exact settles_entry name (orderly_exportedFunction ordered site _)

theorem settles_includeNamedDefault (symbol : SymbolId) : Settles (e.includeNamedDefault symbol) := by
  unfold includeNamedDefault
  dsimp only
  split
  · split
    · exact settles_diagnose _
    · exact settles_includeExportedAlias ordered _
  · split
    · split
      · exact settles_diagnose _
      · exact settles_includeExportedFunction ordered _ _
    · split
      · refine settles_bind (settles_lift _) fun declared => ?_
        exact settles_bind (settles_lift _) fun type => settles_includeExportedType ordered type
      · split
        · exact settles_diagnose _
        · exact settles_includeExportedValue ordered _

theorem orderly_exportedExpression (type : Option TypeId) :
    Extract.Orderly (e.exportedExpression type) := by
  refine orderly_bind (orderly_lift _) fun type => ?_
  exact orderly_bind ((orderly_ways ordered).includeInline type) fun value => orderly_pure _

omit ordered in
/-- A reference to an entry that the step before has written. -/
theorem settles_syntheticRef {first : Extract Unit} (settles : Settles first)
    (written : ∀ w after, first w = (.ok (), after) → after.Stands RootKind.syntheticName) :
    Settles (do first; syntheticRef) := by
  refine settles_bind_of settles ?_ ?_
  · intro _
    exact advances_bind (advances_reserve RootKind.syntheticName) fun _ => composes_advances.pure _
  · intro w _ after ran node final ended
    obtain ⟨r, resolved, referred, ended⟩ := of_bind_ok ended
    cases ended
    exact settled_resolve (written w after ran).has referred

theorem settles_synthetic (type : Option TypeId) : Settles (do
    inScope RootKind.syntheticName do
      Extract.set RootKind.syntheticName (← e.exportedExpression type)
    syntheticRef) :=
  settles_syntheticRef (settles_entry _ (orderly_exportedExpression ordered type))
    fun _ _ ran => (made_of_entry ran).stands

theorem settles_syntheticFunction (site : Option SiteId) : Settles (do
    e.includeExportedFunction site RootKind.syntheticName
    syntheticRef) :=
  settles_syntheticRef (settles_includeExportedFunction ordered site _)
    fun _ _ ran => (made_of_includeExportedFunction ran).choose_spec.stands

theorem settles_defaultValue (registered : e.DefaultsRegistered) (site : SiteId) :
    Settles (e.defaultValue site) := by
  unfold defaultValue
  dsimp only
  split
  · exact settles_syntheticFunction ordered _
  · split
    · exact settles_diagnose _
    · rename_i expression held
      refine settles_bind (settles_lift _) fun type => ?_
      split
      · rename_i symbol named
        refine settles_bind_of (settles_includeNamedDefault ordered symbol) ?_ ?_
        · intro _
          exact advances_bind (settles_lift _).advances fun type => advances_includeRef ordered type _ _
        · intro w _ after ran node final ended
          have known := registered site expression symbol held named w after ran
          obtain ⟨type, same, asked, ended⟩ := of_bind_ok ended
          obtain rfl := (Prod.mk.inj asked).2
          exact ((keeps_includeRef ordered known type none).result ended).2
      · exact settles_synthetic ordered type

theorem settles_includeDefaultExport (registered : e.DefaultsRegistered) (site : SiteId) :
    Settles (e.includeDefaultExport site) := by
  refine settles_bind (settles_defaultValue ordered registered site) fun value => ?_
  exact settles_bind (settles_lift _) fun comment => settles_set _ _

theorem settles_includeRoot (symbol : SymbolId) (kind : RootKind)
    (registered : kind = .default → e.DefaultsRegistered) : Settles (e.includeRoot symbol kind) := by
  unfold includeRoot
  dsimp only
  split
  · refine settles_bind (settles_lift _) fun declared => ?_
    exact settles_bind (settles_lift _) fun type => settles_includeExportedType ordered type
  · split
    · exact settles_diagnose _
    · cases kind with
      | default => exact settles_includeDefaultExport ordered (registered rfl) _
      | named => exact settles_includeExportedAlias ordered _
      | function => exact settles_includeExportedFunction ordered _ _
      | type => exact settles_includeExportedValue ordered _
      | value => exact settles_includeExportedValue ordered _

end Roots

end Engine

namespace Extract

variable {e : Engine}

theorem advances_roots {exports : List (Option SymbolId)}
    (advances : ∀ symbol, some symbol ∈ exports → ∀ kind,
      RootKind.of? (e.program.symbol symbol) = some kind → Advances (e.includeRoot symbol kind))
    (tally : Tally) : Advances (exports.foldlM (root e) tally) :=
  composes_advances.roots (fun advances w => walk_isolated _ w ▸ advances w) advances tally

end Extract

end TypeAtlas
