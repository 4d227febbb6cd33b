import TypeAtlas.Proofs.Extract.Retracing

/-!
Roots repeated in another order. An export is extracted once more, to the entry that it has in the final
walk of the run.
-/

namespace TypeAtlas

open Extract

variable {e : Engine} {final : Walk} {n : Nat} {manner : Manner} {ages : Ages} {now : Nat}
  {rank : TypeId → Nat}

theorem Walk.Told.within (told : final.Told e) (bound : final.unmet e.program.names ≤ n)
    (allowed : List String) : final.Within e final n allowed where
  has _ known := known
  locals _ _ held := held
  reached := told.proper.reached
  filled name node filled := ⟨node, filled, .refl node⟩
  homed := told.proper.homed
  unmet := bound
  declared := by rw [told.outside]; exact List.nil_subset _

namespace Engine

section Records

variable (steady : e.Steady manner ages now rank)
include steady

theorem echoes_builds {m : Nat} (repeats : e.Repeats final n (e.opened m (depthBound e.program))
      (e.opened n (depthBound e.program))) {name : String} {maker : Maker} {step : Engine → Extract Node}
    (builds : e.Builds name maker step) (shaped : ∀ type, maker = .type type → e.Shaped type)
    (other : ∀ site, maker ≠ .root .default site) :
    Echoes e final n (step (e.opening m)) (step (e.opening n)) := by
  have courses : e.Courses _ _ (Echoes e final n) := courses_echoes repeats steady
  cases builds with
  | type type => exact echoes_includeNamed repeats steady (shaped type rfl)
  | @aliasBody _ _ site => exact courses.aliasBody site
  | @writtenAlias site written _ _ =>
      have annotation := repeats.includeAnnotation (some written)
      refine repeats.bind (repeats.lift _) fun comment => ?_
      refine repeats.bind (repeats.declaredTypeParameters site) fun types => ?_
      exact repeats.bind annotation fun child => repeats.pure _
  | @function site _ signature =>
      refine repeats.bind (repeats.includeSignature signature) fun callable => ?_
      exact repeats.bind (repeats.lift _) fun _ => repeats.bind (repeats.lift _) fun _ => repeats.pure _
  | value =>
      refine repeats.bind (repeats.lift _) fun comment => repeats.bind (repeats.lift _) fun type => ?_
      exact repeats.bind (echoes_includeType repeats steady type) fun value => repeats.pure _
  | expression =>
      refine repeats.bind (repeats.lift _) fun type => ?_
      exact repeats.bind (courses.includeInline type) fun value => repeats.pure _
  | default site => exact absurd rfl (other site)

omit steady in
/-- Aliases aside, a thing is made by one step. -/
theorem Builds.unique {name : String} {maker : Maker} {step other : Engine → Extract Node}
    (builds : e.Builds name maker step) (also : e.Builds name maker other) : step = other ∨ ∃ site, maker = .root .named site := by
  cases builds with
  | aliasBody => exact Or.inr ⟨_, rfl⟩
  | writtenAlias => exact Or.inr ⟨_, rfl⟩
  | function stands each =>
      left
      cases also with
      | function found listed =>
          rw [stands, Except.ok.injEq, Option.some_inj] at found
          subst found
          rw [each, Except.ok.injEq, List.cons.injEq] at listed
          rw [listed.1]
  | value stands =>
      left
      cases also with
      | value found =>
          rw [stands, Except.ok.injEq] at found
          rw [found]
  | expression stands =>
      left
      cases also with
      | expression found =>
          rw [stands, Except.ok.injEq] at found
          rw [found]
  | _ =>
      left
      cases also
      rfl

theorem exists_restored (told : final.Told e) {name : String} {maker : Maker}
    {step other : Engine → Extract Node}
    (builds : e.Builds name maker step) (also : e.Builds name maker other)
    (shaped : ∀ type, maker = .type type → e.Shaped type)
    (undefaulted : ∀ site, maker ≠ .root .default site) :
    ∃ body, (∀ entries w u, RestoresAt e final n (step (e.opening entries)) body w u) ∧
      ∀ entries w u, RestoresAt e final n (other (e.opening entries)) body w u := by
  have repeats (entries : Nat) : e.Repeats final n _ _ :=
    repeats_opened steady n entries (depthBound e.program)
  have both (same : step = other) : ∃ body,
      (∀ entries w u, RestoresAt e final n (step (e.opening entries)) body w u) ∧
        ∀ entries w u, RestoresAt e final n (other (e.opening entries)) body w u := by
    subst same
    have restores (entries : Nat) (w u : Walk) :=
      ((echoes_builds steady (repeats entries) builds shaped undefaulted).echoes told w u).restores
    exact ⟨_, restores, restores⟩
  rcases builds.unique also with same | ⟨site, rfl⟩
  · exact both same
  · have body {type : TypeId} {symbol : SymbolId} (aliased : (e.program.type type).alias? = some symbol)
        (declared : e.program.firstDeclaration (some symbol) = some site) {step : Engine → Extract Node}
        (builds : e.Builds name (.root .named site) step) (entries : Nat) (w u : Walk) :
        RestoresAt e final n (step (e.opening entries)) ((e.opening n).aliasBody site) w u :=
      restores_aliasBody steady (repeats entries) told aliased declared builds w u
    cases id builds with
    | aliasBody aliased declared => exact ⟨_, body aliased declared builds, body aliased declared also⟩
    | writtenAlias spelled right =>
        cases id also with
        | aliasBody aliased declared => exact ⟨_, body aliased declared builds, body aliased declared also⟩
        | writtenAlias _ found =>
            rw [right, Option.some_inj] at found
            subst found
            exact both rfl

omit steady in
theorem Claims.plain (unrivalled : e.Unrivalled) {name : String} {node : Node}
    (claims : e.Claims name (.imported node)) {maker : Maker} {step : Engine → Extract Node}
    (rival : e.Claims name maker) (builds : e.Builds name maker step) : False := by
  cases unrivalled claims rival
  cases builds

theorem shaped_of_claims {name : String} {maker : Maker} (claims : e.Claims name maker) (type : TypeId)
    (same : maker = .type type) : e.Shaped type := by
  subst same
  cases claims with
  | type enters made domestic => exact steady.shaped _

/-- What is noted under a name is settled, up to what an alias stands for. -/
theorem alike_of_noted (told : final.Told e) (bound : final.unmet e.program.names ≤ n) {name : String}
    (undefaulted : ∀ site, ¬ e.Claims name (.root .default site)) {node other : Node}
    (noted : e.Noted final name node) (also : e.Noted final name other) : node.Alike other := by
  have unrivalled : e.Unrivalled := steady.unrivalled
  rcases noted.wrote with claims | ⟨maker, step, entries, w, built, wrote⟩
  · rcases also.wrote with rival | ⟨_, _, _, _, _, rival⟩
    · cases unrivalled claims rival
      exact .refl node
    · exact (Claims.plain unrivalled claims rival.claims rival.builds).elim
  · rcases also.wrote with rival | ⟨_, again, _, _, _, rival⟩
    · exact (Claims.plain unrivalled rival wrote.claims wrote.builds).elim
    · obtain rfl := unrivalled wrote.claims rival.claims
      obtain ⟨body, restores, further⟩ := exists_restored (n := n) steady told wrote.builds rival.builds
        (shaped_of_claims steady wrote.claims) fun site same => undefaulted site (same ▸ wrote.claims)
      obtain ⟨made, _, ended, alike, -⟩ := restores _ _ final _ node _ wrote.ran wrote.proper wrote.leads
        wrote.declared (fun _ => told.outside) (told.within bound _)
      obtain ⟨made', _, ended', alike', -⟩ := further _ _ final _ other _ rival.ran rival.proper
        rival.leads rival.declared (fun _ => told.outside) (told.within bound _)
      cases ended.symm.trans ended'
      exact alike.symm.trans alike'

end Records

/-- The engine with all entries to go. -/
def whole (e : Engine) : Engine := e.opening (entryBound e.program)

/-- An alias is written out in the walk, as it is exported. -/
def Spells (e : Engine) (final w : Walk) (name : String) : Prop :=
  ∃ site written entries node begun built, (e.program.site site).type = some written ∧
    w.registry.Filled name node ∧
      e.Wrote final name node (.root .named site) (·.writtenAlias site written) entries begun built

theorem Spells.later {w after : Walk} {name : String} (spells : e.Spells final w name)
    (kept : ∀ node, w.registry.Filled name node → after.registry.Filled name node) :
    e.Spells final after name := by
  obtain ⟨site, written, entries, node, begun, built, right, filled, wrote⟩ := spells
  exact ⟨site, written, entries, node, begun, built, right, kept node filled, wrote⟩

end Engine

namespace Walk

/-- A walk between two roots, on the way to the final walk. -/
structure Rests (w : Walk) (e : Engine) (final : Walk) : Prop extends w.Proper e final where
  unreserved : w.Unreserved
  outside : w.scopes = []

/-- A walk between two roots that holds nothing but entries of the final walk. -/
structure Resumes (u : Walk) (e : Engine) (final : Walk) : Prop
    extends u.Within e final (Engine.entryBound e.program) [] where
  unreserved : u.Unreserved
  outside : u.scopes = []

theorem Extends.outside {w after : Walk} (extended : w.Extends after) (outside : w.scopes = []) :
    after.scopes = [] := by
  have grown := extended.scopes
  rwa [outside] at grown

theorem Settled.unreserved {w after : Walk} (settled : w.Settled after) (unreserved : w.Unreserved) :
    after.Unreserved := by
  intro name
  by_contra reserved
  rw [Bool.not_eq_false] at reserved
  have before := settled name reserved
  rw [unreserved name] at before
  cases before

end Walk

namespace Extract

variable {α β : Type}

def KeepsAt (e : Engine) (final : Walk) (step : Extract α) (w : Walk) : Prop :=
  ∀ value after, step w = (.ok value, after) → w.Rests e final → after.Leads final →
    after.Rests e final ∧ ∀ name, e.Spells final w name → e.Spells final after name

/-- What a step has done between two roots, it does again. -/
def RecursAt (e : Engine) (final : Walk) (step : Extract α) (w u : Walk) : Prop :=
  ∀ value after, step w = (.ok value, after) → w.Rests e final → after.Leads final →
    u.Resumes e final → ∃ later, step u = (.ok value, later) ∧ later.Resumes e final

structure Recurs (e : Engine) (final : Walk) (step : Extract α) : Prop where
  advances : Advances step
  keeps : ∀ w, KeepsAt e final step w
  recurs : final.Told e → ∀ w u, RecursAt e final step w u

theorem keepsAt_bind {step : Extract α} {next : α → Extract β} {w : Walk}
    (first : KeepsAt e final step w)
    (onward : ∀ value after, step w = (.ok value, after) → Advances (next value))
    (rest : ∀ value after, step w = (.ok value, after) → KeepsAt e final (next value) after) :
    KeepsAt e final (step >>= next) w := by
  intro value after ran rests leads
  obtain ⟨middle, between, stepped, ran⟩ := of_bind_ok ran
  have left := ((onward middle between stepped).after ran).leads leads
  obtain ⟨paused, spells⟩ := first middle between stepped rests left
  obtain ⟨ended, further⟩ := rest middle between stepped value after ran paused leads
  exact ⟨ended, fun name spelled => further name (spells name spelled)⟩

theorem recursAt_bind {step : Extract α} {next : α → Extract β} {w u : Walk}
    (keeps : KeepsAt e final step w)
    (onward : ∀ value after, step w = (.ok value, after) → Advances (next value))
    (first : RecursAt e final step w u)
    (rest : ∀ value after later, step w = (.ok value, after) → step u = (.ok value, later) →
      RecursAt e final (next value) after later) :
    RecursAt e final (step >>= next) w u := by
  intro value after ran rests leads resumes
  obtain ⟨middle, between, stepped, ran⟩ := of_bind_ok ran
  have left := ((onward middle between stepped).after ran).leads leads
  obtain ⟨later, again, resumed⟩ := first middle between stepped rests left resumes
  obtain ⟨last, rerun, ended⟩ := rest middle between later stepped again value after ran
    (keeps middle between stepped rests left).1 leads resumed
  exact ⟨last, (bind_ok again).trans rerun, ended⟩

theorem sequences_recurs : Sequences (Recurs e final) where
  bind_of first rest :=
    { advances := advances_bind_of first.advances fun w value after ran => (rest w value after ran).advances
      keeps := fun w => keepsAt_bind (first.keeps w)
        (fun value after ran => (rest w value after ran).advances)
        fun value after ran => (rest w value after ran).keeps after
      recurs := fun told w u => recursAt_bind (first.keeps w)
        (fun value after ran => (rest w value after ran).advances) (first.recurs told w u)
        fun value after later ran _ => (rest w value after ran).recurs told after later }
  lift result :=
    { advances := composes_advances.lift result
      keeps := by
        intro w value after ran rests _
        cases ran
        exact ⟨rests, fun _ spelled => spelled⟩
      recurs := by
        intro _ w u value after ran _ _ resumes
        cases ran
        exact ⟨u, rfl, resumes⟩ }

/-- A step from type to type keeps all entries, and does so again. -/
theorem recurs_of_echoes {step : Extract α} (echoes : Echoes e final (Engine.entryBound e.program) step step)
    (ordered : Orderly step) : Recurs e final step where
  advances := echoes.advances
  keeps w value after ran rests leads := by
    obtain ⟨grows, settled⟩ := (ordered w).result ran
    exact ⟨⟨echoes.notes w value after ran rests.toProper leads, settled.unreserved rests.unreserved,
      grows.toExtends.outside rests.outside⟩, fun name spelled => spelled.later (grows.filled name)⟩
  recurs told w u value after ran rests leads resumes := by
    have none := ((ordered w).result ran).1.toExtends.outside rests.outside
    obtain ⟨later, again, grown, enclosed⟩ := echoes.echoes told w u [] value after ran rests.toProper leads
      (by rw [none]; exact List.nil_subset _) (fun _ => resumes.outside) resumes.toWithin
    have settled := ((ordered u).result again).2
    exact ⟨later, again, enclosed, settled.unreserved resumes.unreserved, grown.outside resumes.outside⟩

end Extract

namespace Engine

theorem unmet_le_entryBound (w : Walk) : w.unmet e.program.names ≤ entryBound e.program :=
  Nat.le_trans (Walk.unmet_le _) (Nat.le_trans (Program.length_names_le _) (Nat.le_add_right _ 8))

theorem echoes_reserve {name : String}
    (apart : ∀ home, ¬ e.Claims name (.imported (.imported name (some home) .module_))) :
    Echoes e final n (reserve name) (reserve name) where
  upholds := upholds_reserve name
  advances := advances_reserve name
  notes w value after ran proper _ := by
    cases ran
    exact proper.reserve apart
  echoes _ w u allowed value after ran _ leads _ _ inside := by
    cases ran
    exact ⟨u.reserve name, rfl, Walk.extends_reserve u name,
      inside.reserve apart (leads.has name (Registry.has_reserve_self _ _))⟩

/-- What a root writes as an entry is what a step that is claimed under the name makes. -/
structure Writing (e : Engine) (final : Walk) (name : String) (maker : Maker) (body : Extract Node)
    (step : Engine → Extract Node) : Prop where
  claims : e.Claims name maker
  builds : e.Builds name maker step
  undefaulted : ∀ site, maker ≠ .root .default site
  untyped : ∀ type, maker ≠ .type type
  unshaped : ∀ type, ¬ e.program.Registers type name
  echoes : Echoes e final (entryBound e.program) body body
  settles : Settles (inScope name do set name (← body))
  kept : ∀ w node built, body w = (.ok node, built) →
    ∀ other held, w.registry.Filled other held → built.registry.Filled other held
  made : ∀ w node built, body w = (.ok node, built) → w.Proper e final → w.scopes ≠ [] →
    ∃ begun : Walk, begun.Proper e final ∧ begun.scopes ≠ [] ∧ step e.whole begun = (.ok node, built)

namespace Writing

variable {name : String} {maker : Maker} {body : Extract Node} {step : Engine → Extract Node}
  (writing : e.Writing final name maker body step)
include writing

theorem plain (node : Node) : maker ≠ .imported node := by
  rintro rfl
  cases writing.builds

theorem wrote {w built : Walk} {node : Node} (rests : w.Rests e final)
    (ran : body w.openScope = (.ok node, built))
    (leads : ((built.set name node).closeScope name).Leads final) :
    built.Proper e final ∧
      ∃ begun, e.Wrote final name node maker step (entryBound e.program) begun built := by
  obtain ⟨left, declared⟩ := Walk.leads_of_closeScope leads
  have left := (Walk.extends_set built name node).leads left
  have opened : w.openScope.Proper e final := rests.toProper.of_same rfl rfl (.openScope rests.reached)
  obtain ⟨begun, proper, inside, again⟩ := writing.made _ node built ran opened nofun
  exact ⟨writing.echoes.notes _ node built ran opened left, begun, writing.claims, writing.builds, proper,
    .within writing.undefaulted inside, again, left, declared⟩

theorem filled {w after : Walk} (rests : w.Rests e final)
    (ran : inScope name (do set name (← body)) w = (.ok (), after)) (leads : after.Leads final) :
    ∃ node begun built, after.registry.Filled name node ∧
      e.Wrote final name node maker step (entryBound e.program) begun built := by
  obtain ⟨_, inner, rfl⟩ := of_inScope_ok ran
  obtain ⟨node, built, stepped, written⟩ := of_bind_ok inner
  cases written
  obtain ⟨-, begun, wrote⟩ := writing.wrote rests stepped leads
  refine ⟨node, begun, built, ?_, wrote⟩
  rw [Walk.registry_closeScope]
  exact Registry.filled_set_self _ _ _

/-- An entry that a root writes is written again as it stands in the final walk. -/
theorem recurs (steady : e.Steady manner ages now rank)
    (spelled : ∀ site, maker = .root .named site → ∃ written,
      (e.program.site site).type = some written ∧ step = (·.writtenAlias site written)) :
    Recurs e final (inScope name do set name (← body)) := by
  have unrivalled : e.Unrivalled := steady.unrivalled
  have apart := unrivalled.apart writing.claims writing.plain
  refine ⟨writing.settles.advances, fun w value after ran rests leads => ?_,
    fun told w u value after ran rests leads resumes => ?_⟩
  · have outside := (writing.settles.advances.after ran).outside rests.outside
    have unreserved := (writing.settles.settled w value after ran).unreserved rests.unreserved
    have entered := writing.filled rests ran leads
    obtain ⟨_, inner, rfl⟩ := of_inScope_ok ran
    obtain ⟨node, built, stepped, written⟩ := of_bind_ok inner
    cases written
    obtain ⟨proper, begun, wrote⟩ := writing.wrote rests stepped leads
    have shape := writing.builds.plain writing.untyped wrote.ran
    have flat := (upholds_set writing.unshaped shape built proper.reached proper.flat).flat
    have proper := proper.set flat apart wrote.noted
    refine ⟨⟨proper.of_same (Walk.registry_closeScope _ _) (Walk.bindings_closeScope _ _)
      (.closeScope name proper.reached), unreserved, outside⟩, fun other spells => ?_⟩
    by_cases same : name = other
    · subst same
      obtain ⟨site, _, _, _, _, _, -, -, rival⟩ := spells
      obtain rfl := unrivalled writing.claims rival.claims
      obtain ⟨written, right, rfl⟩ := spelled site rfl
      obtain ⟨node, begun, built, filled, wrote⟩ := entered
      exact ⟨site, written, _, node, begun, built, right, filled, wrote⟩
    · refine spells.later fun held filled => ?_
      rw [Walk.registry_closeScope]
      exact Registry.filled_set_of_ne node same (writing.kept _ node built stepped other held filled)
  · obtain ⟨_, inner, rfl⟩ := of_inScope_ok ran
    obtain ⟨node, built, stepped, written⟩ := of_bind_ok inner
    cases written
    obtain ⟨proper, begun, wrote⟩ := writing.wrote rests stepped leads
    obtain ⟨other, filled, noted⟩ := told.filled (leads.has name (by
      rw [Walk.registry_closeScope]
      exact Registry.has_set_self _ _ _))
    have alike := alike_of_noted steady told (unmet_le_entryBound final)
      (fun site rival => writing.undefaulted site (unrivalled writing.claims rival)) wrote.noted noted
    obtain ⟨later, again, grown, ended⟩ := writing.echoes.echoes told _ u.openScope (final.localsOf name)
      node built stepped (rests.toProper.of_same rfl rfl (.openScope rests.reached)) wrote.leads
      wrote.declared nofun (resumes.toWithin.openScope _)
    obtain ⟨extended, closed⟩ := resumes.toWithin.closeScope
      (grown.trans (Walk.extends_set later name node)) (ended.set apart filled alike)
    have rerun : inScope name (do set name (← body)) u = _ := inScope_set_ok again
    exact ⟨_, rerun, closed, (writing.settles.settled u _ _ rerun).unreserved resumes.unreserved,
      extended.outside resumes.outside⟩

end Writing

section Roots

variable (steady : e.Steady manner ages now rank)
include steady

omit steady in
theorem orderly_whole : e.whole.Orderly := by
  rw [whole, opening, going_opened]
  exact orderly_inner ..

omit steady in
theorem echoes_inScope {α : Type} (name : String) {step : Extract α} (echoes : Echoes e final n step step) :
    Echoes e final n (inScope name step) (inScope name step) where
  upholds := upholds_inScope name echoes.upholds
  advances := advances_inScope name echoes.advances
  notes w value after ran proper leads := by
    obtain ⟨inner, stepped, rfl⟩ := of_inScope_ok ran
    have left := (Walk.leads_of_closeScope leads).1
    have kept := echoes.notes _ value inner stepped (proper.of_same rfl rfl (.openScope proper.reached)) left
    exact kept.of_same (Walk.registry_closeScope _ _) (Walk.bindings_closeScope _ _)
      (.closeScope name kept.reached)
  echoes told w u allowed value after ran proper leads declared scopes inside := by
    obtain ⟨inner, stepped, rfl⟩ := of_inScope_ok ran
    obtain ⟨left, declared⟩ := Walk.leads_of_closeScope leads
    obtain ⟨later, again, grown, ended⟩ := echoes.echoes told _ u.openScope (final.localsOf name) value inner
      stepped (proper.of_same rfl rfl (.openScope proper.reached)) left declared nofun (inside.openScope _)
    obtain ⟨extended, closed⟩ := inside.closeScope grown ended
    exact ⟨_, by rw [inScope_apply, again], extended, closed⟩

omit steady in
theorem orderly_inScope {α : Type} (name : String) {step : Extract α} (ordered : Extract.Orderly step) :
    Extract.Orderly (inScope name step) := by
  intro w
  refine ⟨(ordered w.openScope).grows.closeScope name, fun value ran other reserved => ?_⟩
  have settled := (ordered w.openScope).settled value ran
  rw [inScope_apply, Walk.registry_closeScope] at reserved
  exact settled other reserved

theorem repeats_whole : e.Repeats final (entryBound e.program)
    (e.opened (entryBound e.program) (depthBound e.program))
    (e.opened (entryBound e.program) (depthBound e.program)) :=
  repeats_opened steady _ _ _

theorem recurs_made {name : String} {maker : Maker} {step : Engine → Extract Node}
    (claims : e.Claims name maker) (builds : e.Builds name maker step)
    (undefaulted : ∀ site, maker ≠ .root .default site) (untyped : ∀ type, maker ≠ .type type)
    (unnamed : ∀ site, maker ≠ .root .named site) (unshaped : ∀ type, ¬ e.program.Registers type name)
    (ordered : Extract.Orderly (step e.whole)) :
    Recurs e final (inScope name do set name (← step e.whole)) := by
  have echoes := echoes_builds steady (repeats_whole steady : e.Repeats final _ _ _) builds
    (fun type same => absurd same (untyped type)) undefaulted
  have writing : e.Writing final name maker (step e.whole) step :=
    { claims, builds, undefaulted, untyped, unshaped, echoes
      settles := settles_entry name ordered
      kept := fun w _ _ ran => ((ordered w).result ran).1.filled
      made := fun w _ _ ran proper inside => ⟨w, proper, inside, ran⟩ }
  exact writing.recurs steady fun site same => absurd same (unnamed site)

/-- An exported alias has its name for itself from the start. -/
theorem writing_alias {name : String} {site written : SiteId} (spelled : e.Spelled name site)
    (right : (e.program.site site).type = some written)
    (unshaped : ∀ type, ¬ e.program.Registers type name) :
    e.Writing final name (.root .named site) (e.whole.exportedAlias site written name)
      (·.writtenAlias site written) := by
  obtain ⟨symbol, exported, placed, sort, called⟩ := id spelled
  have claims : e.Claims name (.root .named site) := by
    have claims := Claims.root exported placed (by rw [sort]; nofun)
    rwa [sort, called] at claims
  have builds : e.Builds name (.root .named site) (·.writtenAlias site written) :=
    .writtenAlias spelled right
  have unrivalled : e.Unrivalled := steady.unrivalled
  have apart := unrivalled.apart claims nofun
  have echoes := echoes_builds steady (repeats_whole steady : e.Repeats final _ _ _) builds nofun nofun
  have ordered := orderly_aliasParts (orderly_whole (e := e)) site written
  refine
    { claims, builds, unshaped
      undefaulted := nofun
      untyped := nofun
      echoes := follows_echoes.bind (echoes_reserve apart) fun _ => echoes
      settles := settles_aliasEntry orderly_whole site written name
      kept := fun w node built ran other held filled => ?_
      made := fun w node built ran proper inside => ?_ }
  · obtain ⟨_, reserved, wrote, ran⟩ := of_bind_ok ran
    cases wrote
    exact ((ordered _).result ran).1.filled other held (Registry.filled_reserve filled name)
  · obtain ⟨_, reserved, wrote, ran⟩ := of_bind_ok ran
    cases wrote
    exact ⟨w.reserve name, proper.reserve apart, inside, ran⟩

theorem recurs_function {name : String} {site : SiteId} (claims : e.Claims name (.root .function site))
    (unshaped : ∀ type, ¬ e.program.Registers type name) :
    Recurs e final (e.whole.includeExportedFunction (some site) name) := by
  refine sequences_recurs.bind_of (sequences_recurs.lift _) fun _ found _ stands => ?_
  refine sequences_recurs.bind_of (sequences_recurs.lift _) fun _ type _ held => ?_
  refine sequences_recurs.bind_of (sequences_recurs.lift _) fun _ signatures _ each => ?_
  rw [lift_apply, Prod.mk.injEq] at stands held each
  obtain rfl := of_present held.1
  split
  · exact sequences_recurs.diagnose _
  · exact recurs_made steady claims (.function stands.1 each.1) nofun nofun nofun unshaped
      (orderly_exportedFunction orderly_whole _ _)

theorem recurs_value {name : String} {site : SiteId} {type : Option TypeId}
    (claims : e.Claims name (.root .value site)) (stands : e.program.valueAt site = .ok type)
    (unshaped : ∀ type, ¬ e.program.Registers type name) :
    Recurs e final (inScope name do Extract.set name (← e.whole.exportedValue site type)) :=
  recurs_made steady claims (.value stands) nofun nofun nofun unshaped
    (orderly_exportedValue orderly_whole _ _)

omit steady in
theorem recurs_declaredName (site : SiteId) : Recurs e final (e.whole.declaredName site) := by
  unfold declaredName
  dsimp only
  split
  · exact sequences_recurs.pure _
  · exact sequences_recurs.diagnose _

/-- A declared type with a usable name registers itself. -/
theorem recurs_exportedType {type : TypeId} {name : String} (declares : e.program.Declares type name)
    (usable : e.isAnonymous name = false) : Recurs e final (e.whole.includeExportedType type) := by
  obtain ⟨symbol, held, -, called⟩ := declares.1
  have same : (e.whole.program.type type).symbol = some symbol := held
  have name_eq : (e.whole.program.symbol symbol).name = name := called
  unfold includeExportedType
  simp only [same, name_eq]
  have visits : Recurs e final (inScope name (e.whole.includeType type)) :=
    recurs_of_echoes (echoes_inScope name (echoes_includeType (repeats_whole steady) steady type))
      (orderly_inScope name (orderly_includeType orderly_whole type))
  refine sequences_recurs.bind_of visits fun w node after ran => ?_
  obtain ⟨inner, visited, -⟩ := of_inScope_ok ran
  obtain ⟨r, rfl⟩ := ref_of_declares (e := e.whole) steady.fits declares usable visited
  exact sequences_recurs.pure ()

variable (apart : e.program.RootsApart e.settings)
include apart

omit steady apart in
theorem claims_of_exported {symbol : SymbolId} {site : SiteId} {kind : RootKind}
    (exported : e.program.Exported symbol) (placed : e.program.DeclaredAt symbol site)
    (sort : RootKind.sortOf (e.program.symbol symbol) = kind) (value : kind ≠ .type) :
    e.Claims (e.program.symbol symbol).name (.root kind site) := by
  subst sort
  exact .root exported placed value

omit steady in
theorem owned_of_exported {symbol : SymbolId} (exported : e.program.Exported symbol) :
    (e.program.symbol symbol).Owned (fun name => ∀ type, ¬ e.program.Registers type name)
      fun name => e.isAnonymous name = false := by
  refine apart.roots symbol ?_
  cases exported with
  | listed listed member => exact .exported listed member
  | named _ _ named => exact .named named

omit steady in
theorem unshaped_of_exported {symbol : SymbolId} {kind : RootKind} (exported : e.program.Exported symbol)
    (sort : RootKind.sortOf (e.program.symbol symbol) = kind) (value : kind ≠ .type) (type : TypeId) :
    ¬ e.program.Registers type (e.program.symbol symbol).name := by
  have owned := owned_of_exported apart exported
  rw [Symbol.Owned, RootKind.declaresType_eq, if_neg (by simpa [sort] using value)] at owned
  exact owned type

omit steady in
theorem usable_of_exported {symbol : SymbolId} (exported : e.program.Exported symbol)
    (sort : RootKind.sortOf (e.program.symbol symbol) = .type) :
    e.isAnonymous (e.program.symbol symbol).name = false := by
  have owned := owned_of_exported apart exported
  rwa [Symbol.Owned, RootKind.declaresType_eq, if_pos (by simp [sort])] at owned

theorem recurs_rootSteps : e.whole.RootSteps (Recurs e final) e.program.Exported where
  toSequences := sequences_recurs
  exportedAlias {symbol site} exported sort placed title := by
    have unshaped := unshaped_of_exported apart exported sort nofun
    unfold includeExportedAlias
    refine sequences_recurs.bind_of (recurs_declaredName site) fun w found after ran => ?_
    obtain ⟨rfl, -⟩ := declaredName_eq (e := e.whole) steady.fits title ran
    split
    · exact sequences_recurs.diagnose _
    · rename_i written right
      refine (writing_alias steady ⟨symbol, exported, placed, sort, rfl⟩ right unshaped).recurs steady ?_
      rintro site ⟨⟩
      exact ⟨written, right, rfl⟩
  exportedFunction exported sort placed :=
    recurs_function steady (claims_of_exported exported placed sort nofun)
      (unshaped_of_exported apart exported sort nofun)
  exportedType exported sort declares :=
    recurs_exportedType steady declares (usable_of_exported apart exported sort)
  exportedValue {symbol site} exported sort placed title := by
    have claims := claims_of_exported exported placed sort nofun
    have unshaped := unshaped_of_exported apart exported sort nofun
    unfold includeExportedValue
    refine sequences_recurs.bind_of (recurs_declaredName site) fun w found after ran => ?_
    obtain ⟨rfl, -⟩ := declaredName_eq (e := e.whole) steady.fits title ran
    have entry (type : Option TypeId) (stands : e.program.valueAt site = .ok type) : Recurs e final _ :=
      recurs_value steady claims stands unshaped
    dsimp only
    split
    · rename_i written held
      refine sequences_recurs.bind_of (sequences_recurs.lift _) fun w type after ran => entry type ?_
      rw [lift_apply, Prod.mk.injEq] at ran
      rw [Program.valueAt, show (e.program.site site).type = _ from held]
      exact ran.1
    · rename_i place untyped held
      refine sequences_recurs.bind_of (sequences_recurs.lift _) fun w type after ran => entry type ?_
      rw [lift_apply, Prod.mk.injEq] at ran
      rw [Program.valueAt, show (e.program.site site).type = _ from untyped,
        show (e.program.site site).initializer = _ from held]
      exact ran.1
    · refine sequences_recurs.bind_of (sequences_recurs.diagnose _) fun w type after ran => ?_
      cases ran

end Roots

end Engine

end TypeAtlas
