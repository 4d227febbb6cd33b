import TypeAtlas.Proofs.Extract.RecurringDefault

/-!
Runs in another order. A run over the same exports succeeds wherever another has, and both end with the
same entries.
-/

namespace TypeAtlas

open Extract

variable {e : Engine} {final : Walk} {manner : Manner} {ages : Ages} {now : Nat} {rank : TypeId → Nat}

namespace Walk

theorem Leads.refl (w : Walk) : w.Leads w := ⟨fun _ known => known, fun _ _ held => held⟩

theorem Rests.emit {w : Walk} (rests : w.Rests e final) (event : Event) : (w.emit event).Rests e final :=
  ⟨rests.toProper.of_same rfl rfl (rests.reached.emit event), rests.unreserved, rests.outside⟩

theorem Resumes.emit {u : Walk} (resumes : u.Resumes e final) (event : Event) :
    (u.emit event).Resumes e final :=
  ⟨resumes.toWithin.of_same rfl rfl rfl resumes.declared (resumes.reached.emit event), resumes.unreserved,
    resumes.outside⟩

theorem Told.resumes (told : final.Told e) : final.Resumes e final :=
  ⟨told.within (Engine.unmet_le_entryBound final) [], told.unreserved, told.outside⟩

end Walk

namespace Extract

theorem root_of_skipped {symbol : SymbolId} (unsuited : RootKind.of? (e.program.symbol symbol) = none)
    (tally : Tally) (w : Walk) : root e tally (some symbol) w =
      (.ok { tally with skipped := tally.skipped + 1 }, w.emit (rootSkipped (e.program.symbol symbol))) := by
  unfold root
  rw [bind_ok (show (liftM (present (some symbol)) : Extract SymbolId) w = (.ok symbol, w) from rfl)]
  simp only [unsuited]
  rfl

theorem root_of_extracted (together : e.settings.isolateRoots = false) {symbol : SymbolId}
    {kind : RootKind} (suited : RootKind.of? (e.program.symbol symbol) = some kind) {w after : Walk}
    (ran : e.includeRoot symbol kind w = (.ok (), after)) (tally : Tally) :
    root e tally (some symbol) w = (.ok { tally with extracted := tally.extracted + 1 },
      after.emit (rootExtracted (e.program.symbol symbol).name kind)) := by
  have attempted : attempt e (e.includeRoot symbol kind) w = (.ok none, after) := by
    rw [attempt, if_neg (by rw [together]; nofun), map_eq, bind_ok ran]
    rfl
  unfold root
  rw [bind_ok (show (liftM (present (some symbol)) : Extract SymbolId) w = (.ok symbol, w) from rfl)]
  simp only [suited]
  rw [bind_ok attempted]
  rfl

end Extract

namespace Engine

section Roots

variable (steady : e.Steady manner ages now rank) (prefixed : e.settings.anonymousStart = "__")
  (apart : e.program.RootsApart e.settings) (bare : e.DefaultsBare)
include steady prefixed apart bare

theorem recurs_includeRoot {exports : List (Option SymbolId)}
    (listed : (e.program.symbol e.program.moduleSymbol).exports.each = .ok exports) {symbol : SymbolId}
    (member : some symbol ∈ exports) {kind : RootKind}
    (suited : RootKind.of? (e.program.symbol symbol) = some kind) :
    Recurs e final (e.whole.includeRoot symbol kind) := by
  refine (recurs_rootSteps steady apart).includeRoot steady.fits suited (fun other => ?_) ?_
  · rw [← RootKind.sortOf_eq suited other] at suited
    exact .listed listed member suited
  · rintro rfl site first
    exact recurs_includeDefaultExport steady prefixed apart bare
      ⟨exports, symbol, listed, member, of?_cases suited, first⟩

/-- The root of an exported symbol has come by on the way to the final walk. -/
def Came (e : Engine) (final : Walk) (exported : Option SymbolId) : Prop :=
  ∃ symbol, exported = some symbol ∧ ∀ kind, RootKind.of? (e.program.symbol symbol) = some kind →
    ∃ w after, e.whole.includeRoot symbol kind w = (.ok (), after) ∧ w.Rests e final ∧
      after.Leads final ∧ ∀ name, e.Spells final after name → e.Spells final final name

variable (together : e.settings.isolateRoots = false) {exports : List (Option SymbolId)}
  (listed : (e.program.symbol e.program.moduleSymbol).exports.each = .ok exports)
include together listed

/-- A run that succeeds passes from one resting walk to another. -/
theorem came_of_roots {roots : List (Option SymbolId)} (members : roots ⊆ exports) {tally last : Tally}
    {w final : Walk} (rests : w.Rests e final)
    (ran : roots.foldlM (root e.whole) tally w = (.ok last, final)) :
    final.Rests e final ∧ (∀ name, e.Spells final w name → e.Spells final final name) ∧
      ∀ exported ∈ roots, e.Came final exported := by
  induction roots generalizing tally w with
  | nil =>
      cases ran
      exact ⟨rests, fun _ spelled => spelled, nofun⟩
  | cons exported rest ih =>
      rw [List.foldlM_cons] at ran
      obtain ⟨between, middle, first, later⟩ := of_bind_ok ran
      obtain ⟨symbol, rfl, rooted⟩ := rooted_of_root first
      have further : middle.Leads final :=
        ((advances_exports orderly_whole steady.fits rest between).after later).leads (.refl final)
      have fewer := List.Subset.trans (List.subset_cons_self ..) members
      cases rooted with
      | skipped unsuited event =>
          obtain ⟨ended, spells, came⟩ := ih fewer (rests.emit event) later
          refine ⟨ended, spells, List.forall_mem_cons.mpr ⟨⟨symbol, rfl, fun kind suited => ?_⟩, came⟩⟩
          cases suited.symm.trans unsuited
      | failed isolates => cases isolates.symm.trans together
      | @extracted kind after suited stepped event =>
          have recurs : Recurs e final _ := recurs_includeRoot steady prefixed apart bare listed
            (members (List.mem_cons_self ..)) suited
          have left : after.Leads final := (Walk.grows_emit after event).toExtends.leads further
          obtain ⟨paused, kept⟩ := recurs.keeps w () after stepped rests left
          obtain ⟨ended, spells, came⟩ := ih fewer (paused.emit event) later
          have onward (name : String) (spelled : e.Spells final after name) : e.Spells final final name :=
            spells name (spelled.later fun _ filled => filled)
          refine ⟨ended, fun name spelled => onward name (kept name spelled),
            List.forall_mem_cons.mpr ⟨⟨symbol, rfl, fun other sort => ?_⟩, came⟩⟩
          cases suited.symm.trans sort
          exact ⟨w, after, stepped, rests, left, onward⟩

theorem resumes_of_roots (told : final.Told e) {roots : List (Option SymbolId)} (members : roots ⊆ exports)
    (came : ∀ exported ∈ roots, e.Came final exported) (tally : Tally) {u : Walk}
    (resumes : u.Resumes e final) :
    ∃ last later, roots.foldlM (root e.whole) tally u = (.ok last, later) ∧ later.Resumes e final := by
  induction roots generalizing tally u with
  | nil => exact ⟨tally, u, rfl, resumes⟩
  | cons exported rest ih =>
      obtain ⟨⟨symbol, rfl, ran⟩, others⟩ := List.forall_mem_cons.mp came
      have fewer := List.Subset.trans (List.subset_cons_self ..) members
      have onward {found : Tally} {between : Walk} (resumed : between.Resumes e final)
          (stepped : root e.whole tally (some symbol) u = (.ok found, between)) :
          ∃ last later, (some symbol :: rest).foldlM (root e.whole) tally u = (.ok last, later) ∧
            later.Resumes e final := by
        obtain ⟨last, later, again, ended⟩ := ih fewer others found resumed
        rw [List.foldlM_cons, bind_ok stepped]
        exact ⟨last, later, again, ended⟩
      cases sort : RootKind.of? (e.program.symbol symbol) with
      | none => exact onward (resumes.emit _) (root_of_skipped (e := e.whole) sort tally u)
      | some kind =>
          obtain ⟨w, after, stepped, rests, left, -⟩ := ran kind sort
          obtain ⟨later, again, resumed⟩ := (recurs_includeRoot steady prefixed apart bare listed
            (members (List.mem_cons_self ..)) sort).recurs told w u () after stepped rests left resumes
          exact onward (resumed.emit _) (root_of_extracted (e := e.whole) together sort again tally)

end Roots

section Agreement

variable (steady : e.Steady manner ages now rank)
include steady

/-- An entry that was made on the way to the final walk is made again. -/
theorem described_of_wrote (told : final.Told e) {name : String} {node : Node} {maker : Maker}
    {step : Engine → Extract Node} {entries : Nat} {begun built : Walk}
    (wrote : e.Wrote final name node maker step entries begun built)
    (undefaulted : ∀ site, maker ≠ .root .default site) {u : Walk} (resumes : u.Resumes e final) :
    ∃ later, step e.whole u = (.ok node, later) := by
  have repeats : e.Repeats final _ _ _ :=
    repeats_opened steady (entryBound e.program) entries (depthBound e.program)
  have echoes := echoes_builds steady repeats wrote.builds (shaped_of_claims steady wrote.claims) undefaulted
  have inner : u.scopes.headD [] ⊆ final.localsOf name := by
    rw [resumes.outside]
    exact List.nil_subset _
  obtain ⟨later, again, -⟩ := echoes.echoes told begun u (final.localsOf name) node built wrote.ran
    wrote.proper wrote.leads wrote.declared (fun _ => resumes.outside) (resumes.toWithin.widen inner)
  exact ⟨later, again⟩

omit steady in
theorem Builds.eq_of_unspelled {name : String} {maker : Maker} {step other : Engine → Extract Node}
    (builds : e.Builds name maker step) (also : e.Builds name maker other)
    (unspelled : ∀ site, maker = .root .named site → ¬ e.Spelled name site) : step = other := by
  rcases builds.unique also with same | ⟨site, rfl⟩
  · exact same
  · cases builds with
    | writtenAlias spelled => exact absurd spelled (unspelled site rfl)
    | aliasBody =>
        cases also with
        | writtenAlias spelled => exact absurd spelled (unspelled site rfl)
        | aliasBody => rfl

omit steady in
theorem hasDefault_of_claims {name : String} {maker : Maker} (claims : e.Claims name maker) {site : SiteId}
    (same : maker = .root .default site) : e.program.HasDefault site := by
  cases claims with
  | default default =>
      cases same
      exact default
  | root exported placed value =>
      simp only [Maker.root.injEq, RootKind.sortOf] at same
      split at same
      · cases same.1
      · split at same
        · cases same.1
        · split at same <;> cases same.1
  | _ => cases same

theorem node_eq_of_wrote {last : Walk} (told : final.Told e) (also : last.Told e)
    (resumes : last.Resumes e final) {name : String} {node other : Node} {maker : Maker}
    {step : Engine → Extract Node} (undefaulted : ∀ site, maker ≠ .root .default site) {entries : Nat}
    {begun built : Walk} (wrote : e.Wrote final name node maker step entries begun built)
    {more : Nat} {start made : Walk} (rival : e.Wrote last name other maker step more start made) :
    node = other := by
  obtain ⟨_, first⟩ := described_of_wrote steady told wrote undefaulted resumes
  obtain ⟨_, second⟩ := described_of_wrote steady also rival undefaulted also.resumes
  cases first.symm.trans second
  rfl

variable (prefixed : e.settings.anonymousStart = "__")
  (apart : e.program.RootsApart e.settings) (bare : e.DefaultsBare)
  {exports : List (Option SymbolId)}
  (listed : (e.program.symbol e.program.moduleSymbol).exports.each = .ok exports)

include prefixed apart bare listed in
/-- Exported aliases are written out in the end. -/
theorem spells_of_came (came : ∀ exported ∈ exports, e.Came final exported) {name : String} {site : SiteId}
    (spelled : e.Spelled name site) : e.Spells final final name := by
  obtain ⟨found, symbol, kind, same, member, suited, spells⟩ :=
    spells_of_spelled steady prefixed apart bare spelled
  rw [listed, Except.ok.injEq] at same
  subst same
  obtain ⟨_, ⟨⟩, ran⟩ := came _ member
  obtain ⟨w, after, stepped, rests, leads, onward⟩ := ran kind suited
  exact onward name (spells w after stepped rests leads)

include prefixed apart bare listed

/-- Two final walks of runs over the same exports hold the same entries. -/
theorem filled_agree {last : Walk} (told : final.Told e) (also : last.Told e)
    (resumes : last.Resumes e final) (came : ∀ exported ∈ exports, e.Came final exported)
    (again : ∀ exported ∈ exports, e.Came last exported) {name : String} {node other : Node}
    (filled : final.registry.Filled name node) (there : last.registry.Filled name other) :
    node = other := by
  have unrivalled : e.Unrivalled := steady.unrivalled
  have noted := told.proper.noted name node filled
  have rivals := also.proper.noted name other there
  rcases noted.wrote with claims | ⟨maker, step, entries, w, built, wrote⟩
  · rcases rivals.wrote with rival | ⟨_, _, _, _, _, rival⟩
    · cases unrivalled claims rival
      rfl
    · exact (Claims.plain unrivalled claims rival.claims rival.builds).elim
  · rcases rivals.wrote with rival | ⟨_, next, _, _, _, rival⟩
    · exact (Claims.plain unrivalled rival wrote.claims wrote.builds).elim
    · obtain rfl := unrivalled wrote.claims rival.claims
      by_cases default : ∃ site, maker = .root .default site
      · obtain ⟨site, rfl⟩ := default
        have isDefault := hasDefault_of_claims wrote.claims rfl
        obtain ⟨_, first⟩ := described_of_noted steady prefixed apart bare isDefault wrote.claims noted told
          resumes
        obtain ⟨_, second⟩ := described_of_noted steady prefixed apart bare isDefault wrote.claims rivals also
          also.resumes
        cases first.symm.trans second
        rfl
      · have undefaulted (site : SiteId) : maker ≠ .root .default site := fun same => default ⟨site, same⟩
        by_cases exported : ∃ site, maker = .root .named site ∧ e.Spelled name site
        · obtain ⟨site, rfl, spelled⟩ := exported
          obtain ⟨place, written, _, _, _, _, right, held, wrote⟩ :=
            spells_of_came steady prefixed apart bare listed came spelled
          obtain ⟨site, found, _, _, _, _, beside, holds, rival⟩ :=
            spells_of_came steady prefixed apart bare listed again spelled
          cases filled.1.symm.trans held.1
          cases there.1.symm.trans holds.1
          cases unrivalled wrote.claims rival.claims
          cases right.symm.trans beside
          have plain (other : SiteId) : Maker.root .named place ≠ .root .default other := nofun
          exact node_eq_of_wrote steady told also resumes plain wrote rival
        · obtain rfl := wrote.builds.eq_of_unspelled rival.builds fun site same spelled =>
            exported ⟨site, same, spelled⟩
          exact node_eq_of_wrote steady told also resumes undefaulted wrote rival

end Agreement

end Engine

end TypeAtlas
