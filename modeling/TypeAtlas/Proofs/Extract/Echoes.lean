import TypeAtlas.Proofs.Extract.Claims
import TypeAtlas.Proofs.Extract.Ending

/-!
A run repeated in another order. Whatever a step did on the way to the final walk of a run, it does again
from any walk that holds nothing but entries of that final walk: it comes to the same value, and writes
nothing else.
-/

namespace TypeAtlas

variable {α β : Type}

open Extract

/-- Nodes that differ in what an alias stands for at most. -/
inductive Node.Alike : Node → Node → Prop
  | refl (node : Node) : Alike node node
  | child {types : List (Node.TypeParameter Node)} {child other : Node} {comment : Option String} :
      Alike (.aliasOf types child comment) (.aliasOf types other comment)

theorem Node.Alike.symm {node other : Node} (alike : node.Alike other) : other.Alike node := by
  cases alike with
  | refl => exact .refl _
  | child => exact .child

theorem Node.Alike.trans {node other last : Node} (alike : node.Alike other)
    (further : other.Alike last) : node.Alike last := by
  cases alike with
  | refl => exact further
  | child => cases further <;> exact .child

theorem Node.Alike.eq_of_isShape {node other : Node} (alike : node.Alike other)
    (shape : node.isShape = true) : node = other := by
  cases alike with
  | refl => rfl
  | child => cases shape

theorem Registry.parameterCount?_of_alike {r other : Registry} {name : String} {node held : Node}
    (filled : r.Filled name node) (also : other.Filled name held) (alike : node.Alike held) :
    r.parameterCount? name = other.parameterCount? name := by
  rw [parameterCount?, parameterCount?, filled.1, filled.2, also.1, also.2]
  cases alike <;> rfl

theorem ScopesGrow.head {scopes after : List (List String)}
    (grown : ScopesGrow scopes after) : scopes.headD [] ⊆ after.headD [] := by
  cases scopes with
  | nil => exact List.nil_subset _
  | cons scope outer =>
      obtain ⟨declared, rfl⟩ := grown
      exact List.subset_append_left _ _

namespace Walk

/-- What a walk holds stands in the final walk as well, except that aliases may stand for something else,
and no more than a number of names are left. -/
structure Within (u : Walk) (e : Engine) (final : Walk) (n : Nat) (allowed : List String) : Prop
    extends u.Leads final where
  reached : u.Reachable
  filled : ∀ name node, u.registry.Filled name node →
    ∃ other, final.registry.Filled name other ∧ node.Alike other
  homed : u.Homed e
  unmet : u.unmet e.program.names ≤ n
  declared : u.scopes.headD [] ⊆ allowed

/-- A final walk, all of it proper. -/
structure Told (final : Walk) (e : Engine) : Prop where
  proper : final.Proper e final
  unreserved : ∀ name, final.registry.isPlaceholder name = false
  outside : final.scopes = []

theorem Within.of_same {u after final : Walk} {e : Engine} {n : Nat} {allowed others : List String}
    (inside : u.Within e final n allowed) (registry : after.registry = u.registry)
    (bindings : after.bindings = u.bindings) (locals : after.localNames = u.localNames)
    (declared : after.scopes.headD [] ⊆ others) (reached : after.Reachable) :
    after.Within e final n others where
  has := by rw [registry]; exact inside.has
  locals name := by
    have same : after.localsOf name = u.localsOf name := by rw [localsOf, locals, localsOf]
    rw [same]
    exact inside.locals name
  reached := reached
  filled := by rw [registry]; exact inside.filled
  homed := inside.homed.of_same registry bindings
  unmet := by rw [Walk.unmet, registry]; exact inside.unmet
  declared := declared

theorem Told.filled {final : Walk} {e : Engine} (told : final.Told e) {name : String}
    (known : final.registry.has name = true) :
    ∃ node, final.registry.Filled name node ∧ e.Noted final name node := by
  rcases stands_of_has known with ⟨node, filled⟩ | reserved
  · exact ⟨node, filled, told.proper.noted name node filled⟩
  · rw [told.unreserved] at reserved
    cases reserved

theorem Proper.alike {e : Engine} {final w : Walk} (proper : w.Proper e final) (name : String) (node : Node)
    (filled : w.registry.Filled name node) : ∃ other, node.Alike other ∧ e.Noted final name other :=
  ⟨node, .refl node, proper.noted name node filled⟩

theorem Within.alike {e : Engine} {final u : Walk} {n : Nat} {allowed : List String}
    (inside : u.Within e final n allowed) (told : final.Told e) (name : String) (node : Node)
    (filled : u.registry.Filled name node) : ∃ other, node.Alike other ∧ e.Noted final name other := by
  obtain ⟨other, there, alike⟩ := inside.filled name node filled
  exact ⟨other, alike, told.proper.noted name other there⟩

theorem Extends.outermost {w after u later : Walk} (extended : w.Extends after)
    (grown : u.Extends later) (scopes : w.scopes = [] → u.scopes = []) (none : after.scopes = []) :
    later.scopes = [] := by
  have outer : w.scopes = [] := by
    by_contra inner
    exact extended.scopes_ne_nil inner none
  have same := grown.scopes
  rwa [scopes outer] at same

theorem mem_of_declareLocal {w : Walk} {name : String} {allowed : List String}
    (told : (w.declareLocal name).scopes.headD [] ⊆ allowed) : w.scopes = [] ∨ name ∈ allowed := by
  unfold declareLocal at told
  split at told
  · exact Or.inl ‹_›
  · exact Or.inr (told (mem_addName _ name))

theorem declareLocal_within {u : Walk} {name : String} {allowed : List String}
    (held : u.scopes.headD [] ⊆ allowed) (member : u.scopes = [] ∨ name ∈ allowed) :
    (u.declareLocal name).scopes.headD [] ⊆ allowed := by
  unfold declareLocal
  split
  · exact held
  · rename_i scope outer inside
    rw [inside] at held member
    intro declared listed
    change declared ∈ addName scope name at listed
    unfold addName at listed
    split at listed
    · exact held listed
    · rcases List.mem_append.mp listed with listed | listed
      · exact held listed
      · rw [List.mem_singleton.mp listed]
        exact member.resolve_left nofun

end Walk

namespace Extract

/-- A step that ends on the way to the final walk leaves a proper walk behind. -/
def NotesAt (e : Engine) (final : Walk) (step : Extract α) (w : Walk) : Prop :=
  ∀ value after, step w = (.ok value, after) → w.Proper e final → after.Leads final →
    after.Proper e final

/-- What the first step does from one walk, on the way to the final walk, the other does from another. -/
def EchoesAt (e : Engine) (final : Walk) (n : Nat) (step other : Extract α) (w u : Walk) : Prop :=
  ∀ allowed value after, step w = (.ok value, after) → w.Proper e final → after.Leads final →
    after.scopes.headD [] ⊆ allowed → (w.scopes = [] → u.scopes = []) →
    u.Within e final n allowed →
      ∃ later, other u = (.ok value, later) ∧ u.Extends later ∧ later.Within e final n allowed

/-- The other step repeats the first from anywhere. -/
structure Echoes (e : Engine) (final : Walk) (n : Nat) (step other : Extract α) : Prop where
  upholds : Upholds e.program step
  advances : Advances step
  notes : ∀ w, NotesAt e final step w
  echoes : final.Told e → ∀ w u, EchoesAt e final n step other w u

variable {e : Engine} {final : Walk} {n : Nat}

theorem notesAt_bind {step : Extract α} {next : α → Extract β} {w : Walk}
    (first : NotesAt e final step w)
    (advances : ∀ value after, step w = (.ok value, after) → Advances (next value))
    (rest : ∀ value after, step w = (.ok value, after) → NotesAt e final (next value) after) :
    NotesAt e final (step >>= next) w := by
  intro value after ran proper leads
  obtain ⟨middle, between, stepped, ran⟩ := of_bind_ok ran
  have left := ((advances middle between stepped).after ran).leads leads
  exact rest middle between stepped value after ran (first middle between stepped proper left) leads

theorem echoesAt_bind {step other : Extract α} {next further : α → Extract β} {w u : Walk}
    (notes : NotesAt e final step w) (advances : Advances step)
    (onward : ∀ value after, step w = (.ok value, after) → Advances (next value))
    (first : EchoesAt e final n step other w u)
    (rest : ∀ value after later, step w = (.ok value, after) → other u = (.ok value, later) →
      u.Extends later → EchoesAt e final n (next value) (further value) after later) :
    EchoesAt e final n (step >>= next) (other >>= further) w u := by
  intro allowed value after ran proper leads declared scopes inside
  obtain ⟨middle, between, stepped, ran⟩ := of_bind_ok ran
  have onwards := (onward middle between stepped).after ran
  have left := onwards.leads leads
  obtain ⟨later, again, grown, within_⟩ := first allowed middle between stepped proper left
    (List.Subset.trans onwards.scopes.head declared) scopes inside
  obtain ⟨last, rerun, further, ended⟩ := rest middle between later stepped again grown allowed value
    after ran (notes middle between stepped proper left) leads declared
    ((advances.after stepped).outermost grown scopes) within_
  exact ⟨last, (bind_ok again).trans rerun, grown.trans further, ended⟩

theorem notesAt_of_same {step : Extract α} {w : Walk} (registry : (step w).2.registry = w.registry)
    (bindings : (step w).2.bindings = w.bindings) (reached : w.Reachable → (step w).2.Reachable) :
    NotesAt e final step w := by
  intro value after ran proper leads
  rw [ran] at registry bindings reached
  exact proper.of_same registry bindings (reached proper.reached)

theorem echoesAt_of_same {step : Extract α} {w u : Walk} (value : ∀ w u : Walk, (step w).1 = (step u).1)
    (extends_ : u.Extends (step u).2) (registry : (step u).2.registry = u.registry)
    (bindings : (step u).2.bindings = u.bindings) (locals : (step u).2.localNames = u.localNames)
    (declared : ∀ allowed, (step w).2.scopes.headD [] ⊆ allowed → (w.scopes = [] → u.scopes = []) →
      u.scopes.headD [] ⊆ allowed → (step u).2.scopes.headD [] ⊆ allowed) :
    EchoesAt e final n step step w u := by
  intro allowed result after ran _ _ told scopes inside
  have same := value w u
  rw [ran] at same declared
  refine ⟨(step u).2, Prod.ext same.symm rfl, extends_, ?_⟩
  exact inside.of_same registry bindings locals (declared allowed told scopes inside.declared)
    (extends_.reachable inside.reached)

theorem echoes_of_same {step : Extract α} (upholds : Upholds e.program step) (advances : Advances step)
    (value : ∀ w u : Walk, (step w).1 = (step u).1) (registry : ∀ w, (step w).2.registry = w.registry)
    (bindings : ∀ w, (step w).2.bindings = w.bindings)
    (locals : ∀ w, (step w).2.localNames = w.localNames)
    (declared : ∀ (w u : Walk) allowed, (step w).2.scopes.headD [] ⊆ allowed →
      (w.scopes = [] → u.scopes = []) → u.scopes.headD [] ⊆ allowed →
        (step u).2.scopes.headD [] ⊆ allowed) : Echoes e final n step step where
  upholds := upholds
  advances := advances
  notes w := notesAt_of_same (registry w) (bindings w) (advances w).reachable
  echoes _ w u := echoesAt_of_same value (advances u) (registry u) (bindings u) (locals u) (declared w u)

theorem follows_echoes : Follows (Echoes e final n) where
  bind_of {α β step other next further} first rest :=
    { upholds := upholds_bind_of first.upholds fun w value after ran => (rest w value after ran).upholds
      advances := advances_bind_of first.advances fun w value after ran =>
        (rest w value after ran).advances
      notes := fun w => notesAt_bind (first.notes w)
        (fun value after ran => (rest w value after ran).advances)
        fun value after ran => (rest w value after ran).notes after
      echoes := fun told w u => echoesAt_bind (first.notes w) first.advances
        (fun value after ran => (rest w value after ran).advances) (first.echoes told w u)
        fun value after later ran _ _ => (rest w value after ran).echoes told after later }
  lift result := echoes_of_same (composes_upholds.lift result) (composes_advances.lift result)
    (fun _ _ => rfl) (fun _ => rfl) (fun _ => rfl) (fun _ => rfl) fun _ _ _ _ _ held => held
  emit event := echoes_of_same (composes_upholds.emit event) (composes_advances.emit event)
    (fun _ _ => rfl) (fun _ => rfl) (fun _ => rfl) (fun _ => rfl) fun _ _ _ _ _ held => held
  count := echoes_of_same composes_upholds.count composes_advances.count
    (fun _ _ => rfl) (fun _ => rfl) (fun _ => rfl) (fun _ => rfl) fun _ _ _ _ _ held => held
  declareLocal name := by
    refine echoes_of_same (composes_upholds.declareLocal name) (composes_advances.declareLocal name)
      (fun _ _ => rfl) (fun w => Walk.registry_declareLocal w name)
      (fun w => Walk.bindings_declareLocal w name) (fun w => Walk.localNames_declareLocal w name) ?_
    intro w u allowed told scopes held
    exact (w.mem_of_declareLocal told).elim (fun none => Walk.declareLocal_within held (.inl (scopes none)))
      fun member => Walk.declareLocal_within held (.inr member)

end Extract

namespace Walk

variable {e : Engine} {final : Walk} {n : Nat} {allowed : List String}

theorem localsOf_closeScope {w : Walk} {name other declared : String}
    (held : declared ∈ (w.closeScope name).localsOf other) :
    declared ∈ w.localsOf other ∨ other = name ∧ declared ∈ w.scopes.headD [] := by
  unfold closeScope at held
  split at held
  · exact Or.inl held
  · exact Or.inl held
  · rename_i scope outer nonempty inside
    dsimp only [localsOf] at held
    by_cases same : name = other
    · subst same
      rw [Table.get?_put_self, Option.getD_some] at held
      rw [inside]
      have added (scope names : List String) (listed : declared ∈ scope.foldl addName names) :
          declared ∈ names ∨ declared ∈ scope := by
        induction scope generalizing names with
        | nil => exact Or.inl listed
        | cons first rest ih =>
            rcases ih _ listed with listed | listed
            · unfold addName at listed
              split at listed
              · exact Or.inl listed
              · rcases List.mem_append.mp listed with listed | listed
                · exact Or.inl listed
                · exact Or.inr (List.mem_cons.mpr (Or.inl (List.mem_singleton.mp listed)))
            · exact Or.inr (List.mem_cons_of_mem _ listed)
      exact (added scope _ held).imp_right fun listed => ⟨rfl, listed⟩
    · rw [Table.get?_put_of_ne _ _ same] at held
      exact Or.inl held

theorem leads_of_closeScope {built : Walk} {name : String} (leads : (built.closeScope name).Leads final) :
    built.Leads final ∧ built.scopes.headD [] ⊆ final.localsOf name := by
  refine ⟨⟨fun other known => leads.has other (by rwa [registry_closeScope]), fun other declared held => ?_⟩,
    fun declared held => leads.locals name (mem_localsOf_closeScope held)⟩
  refine leads.locals other ?_
  unfold localsOf at held
  cases found : Table.get? built.localNames other with
  | none =>
      rw [found] at held
      cases held
  | some names =>
      rw [found] at held
      obtain ⟨more, found⟩ := locals_closeScope built name other names found
      change declared ∈ (Table.get? (built.closeScope name).localNames other).getD []
      rw [found]
      exact List.mem_append_left _ held

theorem Within.openScope {u : Walk} (inside : u.Within e final n allowed) (others : List String) :
    u.openScope.Within e final n others :=
  inside.of_same rfl rfl rfl (List.nil_subset _) (.openScope inside.reached)

theorem Within.widen {u : Walk} {others : List String} (inside : u.Within e final n allowed)
    (declared : u.scopes.headD [] ⊆ others) : u.Within e final n others :=
  inside.of_same rfl rfl rfl declared inside.reached

theorem Within.closeScope {u later : Walk} {m : Nat} (inside : u.Within e final n allowed) {name : String}
    (grown : u.openScope.Extends later) (ended : later.Within e final m (final.localsOf name)) :
    u.Extends (later.closeScope name) ∧ (later.closeScope name).Within e final n allowed := by
  have extended := grown.closeScope name
  have scopes : (later.closeScope name).scopes = u.scopes := by
    obtain ⟨declared, same⟩ := grown.scopes
    exact scopes_closeScope same name
  refine ⟨extended, ?_⟩
  exact
    { has := fun other known => ended.has other (by rwa [registry_closeScope] at known)
      locals := fun other declared held => by
        rcases localsOf_closeScope held with held | ⟨same, held⟩
        · exact ended.locals other held
        · rw [same]
          exact ended.declared held
      reached := extended.reachable inside.reached
      filled := by rw [registry_closeScope]; exact ended.filled
      homed := ended.homed.of_same (registry_closeScope _ _) (bindings_closeScope _ _)
      unmet := Nat.le_trans (unmet_of_extends extended) inside.unmet
      declared := by rw [scopes]; exact inside.declared }

/-- An entry may be written as it stands in the final walk. -/
theorem Within.set {u : Walk} (inside : u.Within e final n allowed) {name : String} {node other : Node}
    (apart : ∀ home, ¬ e.Claims name (.imported (.imported name (some home) .module_)))
    (filled : final.registry.Filled name other) (alike : node.Alike other) :
    (u.set name node).Within e final n allowed where
  has held known := by
    rcases has_set known with known | rfl
    · exact inside.has held known
    · exact Registry.has_of_get? filled.1
  locals := inside.locals
  reached := .set name node inside.reached
  filled held written there := by
    rcases Registry.filled_of_set there with ⟨rfl, rfl⟩ | ⟨-, there⟩
    · exact ⟨other, filled, alike⟩
    · exact inside.filled held written there
  homed := inside.homed.of_names (fun _ => has_set) rfl apart
  unmet := Nat.le_trans (unmet_of_extends (extends_set u name node)) inside.unmet
  declared := inside.declared

theorem Within.reserve {u : Walk} (inside : u.Within e final n allowed) {name : String}
    (apart : ∀ home, ¬ e.Claims name (.imported (.imported name (some home) .module_)))
    (known : final.registry.has name = true) : (u.reserve name).Within e final n allowed where
  has other there := by
    rcases has_reserve there with there | rfl
    · exact inside.has other there
    · exact known
  locals := inside.locals
  reached := .reserve name inside.reached
  filled other held there := inside.filled other held (Registry.filled_of_reserve there)
  homed := inside.homed.of_names (fun _ => has_reserve) rfl apart
  unmet := Nat.le_trans (unmet_of_extends (extends_reserve u name)) inside.unmet
  declared := inside.declared

end Walk

namespace Extract

open Engine

variable {e : Engine} {final : Walk} {n : Nat}

theorem entry_eq (name : String) (body : Extract Node) :
    entry name body = inScope name (do set name (← (do reserve name; body))) := rfl

theorem notesAt_entry {name : String} {body : Extract Node} {w : Walk}
    (apart : ∀ home, ¬ e.Claims name (.imported (.imported name (some home) .module_)))
    (upholds : w.Reachable → w.Flat e.program →
      w.Upholds e.program (inScope name (do set name (← body)) w).2)
    (records : ∀ node built, body w.openScope = (.ok node, built) → w.openScope.Proper e final →
      built.Leads final → built.scopes.headD [] ⊆ final.localsOf name →
        built.Proper e final ∧ e.Noted final name node) :
    NotesAt e final (inScope name (do set name (← body))) w := by
  intro value after ran proper leads
  have flat := (upholds proper.reached proper.flat).flat
  rw [ran] at flat
  obtain ⟨_, inner, rfl⟩ := of_inScope_ok ran
  obtain ⟨node, built, made, written⟩ := of_bind_ok inner
  cases written
  obtain ⟨left, declared⟩ := Walk.leads_of_closeScope leads
  have left := (Walk.extends_set built name node).leads left
  obtain ⟨kept, noted⟩ := records node built made
    (proper.of_same rfl rfl (.openScope proper.reached)) left declared
  have flat : (built.set name node).Flat e.program := by
    unfold Walk.Flat at flat ⊢
    rwa [Walk.registry_closeScope] at flat
  exact (kept.set flat apart noted).of_same (Walk.registry_closeScope _ _)
    (Walk.bindings_closeScope _ _) (.closeScope name (.set name node kept.reached))

/-- What registering an entry leaves is proper, and the entry is what the step has made. -/
theorem notesAt_register (unrivalled : e.Unrivalled) {name : String} {maker : Maker}
    {step : Engine → Extract Node} {body : Extract Node} (claims : e.Claims name maker)
    (plain : ∀ node, maker ≠ .imported node) (other : ∀ site, maker ≠ .root .default site)
    (builds : e.Builds name maker step)
    (upholds : Upholds e.program (register name body)) (notes : ∀ w, NotesAt e final body w)
    (made : ∀ w node after, body w = (.ok node, after) →
      ∃ entries, step (e.opening entries) w = (.ok node, after)) (w : Walk) :
    NotesAt e final (register name body) w := by
  have apart := unrivalled.apart claims plain
  cases known : w.registry.has name with
  | true =>
      intro value after ran proper _
      have same : register name body w = (.ok (), w) := by
        rw [register, bind_ok (isRegistered_apply name w), known]
        rfl
      cases same.symm.trans ran
      exact proper
  | false =>
      have same : register name body w = entry name body w := register_of_free known
      intro value after ran
      rw [same, entry_eq] at ran
      refine notesAt_entry apart (fun reached flat => ?_) ?_ value after ran
      · rw [← entry_eq, ← same]
        exact upholds w reached flat
      · intro node built ran proper left declared
        obtain ⟨_, reserved, wrote, ran⟩ := of_bind_ok ran
        cases wrote
        have begun := proper.reserve apart
        obtain ⟨entries, again⟩ := made _ node built ran
        refine ⟨notes _ node built ran begun left, ?_⟩
        exact .made claims builds begun.reached begun.flat begun.homed begun.noted
          (.within other (List.cons_ne_nil _ _)) again left declared

theorem inScope_set_ok {name : String} {body : Extract Node} {w built : Walk} {node : Node}
    (made : body w.openScope = (.ok node, built)) :
    inScope name (do set name (← body)) w = (.ok (), (built.set name node).closeScope name) := by
  rw [inScope_apply, bind_ok made]
  rfl

/-- The other step does what the first has done, except that an alias may stand for something else. -/
def RestoresAt (e : Engine) (final : Walk) (n : Nat) (step other : Extract Node) (w u : Walk) : Prop :=
  ∀ allowed node after, step w = (.ok node, after) → w.Proper e final → after.Leads final →
    after.scopes.headD [] ⊆ allowed → (w.scopes = [] → u.scopes = []) → u.Within e final n allowed →
      ∃ made later, other u = (.ok made, later) ∧ made.Alike node ∧ u.Extends later ∧
        later.Within e final n allowed

theorem EchoesAt.restores {step other : Extract Node} {w u : Walk}
    (echoes : EchoesAt e final n step other w u) : RestoresAt e final n step other w u := by
  intro allowed node after ran proper leads declared scopes inside
  obtain ⟨later, again, grown, ended⟩ := echoes allowed node after ran proper leads declared scopes inside
  exact ⟨node, later, again, .refl node, grown, ended⟩

/-- An entry that is still to be made is made again as the final walk has it. -/
theorem within_register (told : final.Told e) (unrivalled : e.Unrivalled) {name : String} {maker : Maker}
    (claims : e.Claims name maker) (plain : ∀ node, maker ≠ .imported node)
    (other : ∀ site, maker ≠ .root .default site) (member : name ∈ e.program.names)
    (body : Extract Node) (bodies : ∀ m, n = m + 1 → ∀ step, e.Builds name maker step → ∀ entries w u,
      RestoresAt e final m (step (e.opening entries)) body w u)
    (known : final.registry.has name = true) {u : Walk} {allowed : List String}
    (inside : u.Within e final n allowed) :
    ∃ later, register name body u = (.ok (), later) ∧ u.Extends later ∧
      later.Within e final n allowed := by
  cases there : u.registry.has name with
  | true =>
      refine ⟨u, ?_, .refl u, inside⟩
      rw [register, bind_ok (isRegistered_apply name u), there]
      rfl
  | false =>
      have apart := unrivalled.apart claims plain
      obtain ⟨node, filled, noted⟩ := told.filled known
      have fewer : (u.openScope.reserve name).unmet e.program.names < u.unmet e.program.names :=
        Walk.unmet_lt (fun _ held => (Walk.extends_reserve u.openScope name).has held) member there
          (Registry.has_reserve_self _ _)
      have bound := Nat.lt_of_lt_of_le fewer inside.unmet
      obtain ⟨m, rfl⟩ : ∃ m, n = m + 1 := ⟨n - 1, by omega⟩
      cases noted with
      | imported rival => exact absurd (unrivalled claims rival) (plain _)
      | made rival builds reached flat homed noted entered ran leads declared =>
          obtain rfl := unrivalled claims rival
          have begun : (u.openScope.reserve name).Within e final m (final.localsOf name) :=
            { (inside.openScope (final.localsOf name)).reserve apart known with
              unmet := Nat.le_of_lt_succ bound }
          obtain ⟨made, later, again, alike, grown, ended⟩ := bodies m rfl _ builds _ _ _ _ node _ ran
            ⟨reached, flat, homed, noted⟩ leads declared (fun none => absurd none (entered.inner other)) begun
          have opened := (Walk.extends_reserve u.openScope name).trans grown
          obtain ⟨extended, closed⟩ := inside.closeScope
            (opened.trans (Walk.extends_set later name made)) (ended.set apart filled alike)
          refine ⟨_, ?_, extended, closed⟩
          rw [register_of_free there, entry_eq]
          exact inScope_set_ok again

theorem echoesAt_register (told : final.Told e) (unrivalled : e.Unrivalled) {name : String}
    {maker : Maker} {step body : Extract Node} (claims : e.Claims name maker)
    (plain : ∀ node, maker ≠ .imported node) (other : ∀ site, maker ≠ .root .default site)
    (member : name ∈ e.program.names)
    (bodies : ∀ m, n = m + 1 → ∀ step, e.Builds name maker step → ∀ entries w u,
      RestoresAt e final m (step (e.opening entries)) body w u)
    (w u : Walk) : EchoesAt e final n (register name step) (register name body) w u := by
  intro allowed value after ran _ leads _ _ inside
  exact within_register told unrivalled claims plain other member _ bodies
    (leads.has name (has_of_register ran)) inside

end Extract

end TypeAtlas
