import TypeAtlas.Proofs.Extract.Exporting
import TypeAtlas.Proofs.Extract.Rerun
import TypeAtlas.Proofs.Extract.Definite

/-!
The order of the exports. Where distinct things go by distinct names it does not matter: a run in
another order succeeds just the same, with the same entries and the same names left open. Where an
exported alias shares its name with an import of its own, the entries go by the order.
-/

namespace TypeAtlas

open Extract Engine

variable {e : Engine} {manner : Manner} {ages : Ages} {now : Nat} {rank : TypeId → Nat}

namespace Walk

/-- The same entries under the same names, which declare the same. -/
structure Matches (w u : Walk) : Prop where
  entries : ∀ name, w.registry.get? name = u.registry.get? name
  locals : ∀ name declared, declared ∈ w.localsOf name ↔ declared ∈ u.localsOf name

theorem rests_start {event : Event} (final : Walk) : (emit {} event).Rests e final where
  reached := (Reachable.fresh []).emit event
  flat _ _ _ held := by cases held
  homed := ⟨nofun, fun _ _ _ known => by cases known⟩
  noted _ _ filled := by cases filled.1
  unreserved _ := rfl
  outside := rfl

theorem resumes_start {event : Event} (final : Walk) : (emit {} event).Resumes e final where
  has _ known := by cases known
  locals _ _ held := by cases held
  reached := (Reachable.fresh []).emit event
  filled _ _ filled := by cases filled.1
  homed := ⟨nofun, fun _ _ _ known => by cases known⟩
  unmet := unmet_le_entryBound _
  declared := List.nil_subset _
  unreserved _ := rfl
  outside := rfl

theorem Rests.told {final : Walk} (rests : final.Rests e final) : final.Told e :=
  ⟨rests.toProper, rests.unreserved, rests.outside⟩

/-- Where nothing is left to be filled, a name dangles if an entry mentions it that does not declare it. -/
theorem mem_danglingOf_iff {w : Walk} (reached : w.Reachable) (unreserved : w.Unreserved) {name : String} :
    name ∈ danglingOf w ↔ ∃ owner node, w.registry.get? owner = some node ∧ name ∈ node.mentions ∧
      w.registry.has name = false ∧ name ∉ w.localsOf owner := by
  have own (owner : String) : (Table.get? (graphOf w).localNames owner).getD [] = w.localsOf owner := rfl
  constructor
  · intro dangles
    rcases List.mem_append.mp (mem_dedup_iff.mp dangles) with referred | reserved
    · obtain ⟨⟨owner, node⟩, entry, unknown⟩ := List.mem_flatMap.mp (mem_dedup_iff.mp referred)
      simp only [Graph.danglingIn, own, List.mem_filter, Bool.and_eq_true, Bool.not_eq_true',
        List.contains_eq_mem, decide_eq_false_iff_not] at unknown
      exact ⟨owner, node, Table.get?_of_mem reached.nodup entry, unknown⟩
    · have placed := (List.mem_filter.mp reserved).2
      rw [unreserved name] at placed
      cases placed
  · rintro ⟨owner, node, held, member, missing, foreign⟩
    refine mem_dedup_iff.mpr (List.mem_append_left _ (mem_dedup_iff.mpr ?_))
    refine List.mem_flatMap.mpr ⟨(owner, node), Table.mem_of_get? held, List.mem_filter.mpr ⟨member, ?_⟩⟩
    have absent : Table.has (graphOf w).entries name = false := missing
    simpa [own, absent] using foreign

theorem Matches.dangling {w u : Walk} (same : w.Matches u) (reached : w.Reachable)
    (unreserved : w.Unreserved) (also : u.Reachable) (unreservedU : u.Unreserved) (name : String) :
    name ∈ danglingOf w ↔ name ∈ danglingOf u := by
  have has : w.registry.has name = u.registry.has name :=
    congrArg Option.isSome (same.entries name)
  simp only [mem_danglingOf_iff reached unreserved, mem_danglingOf_iff also unreservedU, same.entries,
    same.locals, has]

end Walk

section Runs

variable (steady : e.Steady manner ages now rank) (prefixed : e.settings.anonymousStart = "__")
  (apart : e.program.RootsApart e.settings) (bare : e.DefaultsBare)
  (together : e.settings.isolateRoots = false) {exports roots others : List (Option SymbolId)}
  (listed : (e.program.symbol e.program.moduleSymbol).exports.each = .ok exports)
  (members : roots.Perm exports) (permuted : others.Perm exports) {event another : Event}
  {last : Tally} {final : Walk}
  (ran : roots.foldlM (root e.whole) {} (Walk.emit {} event) = (.ok last, final))
include steady prefixed apart bare together listed members ran

theorem came_of_run : final.Rests e final ∧ ∀ exported ∈ exports, e.Came final exported := by
  obtain ⟨rests, -, came⟩ := came_of_roots steady prefixed apart bare together listed members.subset
    (Walk.rests_start final) ran
  exact ⟨rests, fun exported member => came exported (members.symm.subset member)⟩

include permuted

variable (another) in
theorem resumes_of_run : ∃ tally later,
    others.foldlM (root e.whole) {} (Walk.emit {} another) = (.ok tally, later) ∧
      later.Resumes e final := by
  obtain ⟨rests, came⟩ := came_of_run steady prefixed apart bare together listed members ran
  exact resumes_of_roots steady prefixed apart bare together listed rests.told permuted.subset
    (fun exported member => came exported (permuted.subset member)) {} (Walk.resumes_start final)

variable (another) in
/-- A run over the exports in another order ends with the same entries. -/
theorem matches_of_run : ∃ tally later,
    others.foldlM (root e.whole) {} (Walk.emit {} another) = (.ok tally, later) ∧
      final.Matches later ∧ ∀ name, name ∈ danglingOf final ↔ name ∈ danglingOf later := by
  obtain ⟨tally, later, rerun, resumes⟩ := resumes_of_run steady prefixed apart bare
    together listed members permuted another ran
  obtain ⟨_, back, same, reversed⟩ := resumes_of_run steady prefixed apart bare together
    listed permuted members event rerun
  cases ran.symm.trans same
  obtain ⟨rests, came⟩ := came_of_run steady prefixed apart bare together listed members ran
  obtain ⟨also, again⟩ := came_of_run steady prefixed apart bare together listed permuted rerun
  have agree : final.Matches later := by
    refine ⟨fun name => ?_, fun name declared => ⟨fun held => reversed.locals name held,
      fun held => resumes.locals name held⟩⟩
    cases known : final.registry.has name with
    | true =>
        obtain ⟨node, filled, -⟩ := rests.told.filled known
        obtain ⟨other, there, -⟩ := also.told.filled (reversed.has name known)
        rw [filled.1, there.1, filled_agree steady prefixed apart bare listed rests.told also.told
          resumes came again filled there]
    | false =>
        have missing : later.registry.has name = false :=
          Bool.eq_false_iff.mpr fun there => Bool.eq_false_iff.mp known (resumes.has name there)
        have unheld {w : Walk} (missing : w.registry.has name = false) : w.registry.get? name = none := by
          simpa [Registry.has, Table.has, Registry.get?] using missing
        rw [unheld known, unheld missing]
  exact ⟨tally, later, rerun, agree,
    agree.dangling rests.reached rests.unreserved also.reached also.unreserved⟩

end Runs

/-- The engine of a program with nowhere to go yet. -/
def Program.engine (p : Program) (settings : Settings) : Engine :=
  { program := p, settings := settings.extraction, libraries := settings.libraries }

theorem Program.Inside.scope {p : Program} {settings : Settings} (inside : p.Inside settings.libraries)
    (symbol : SymbolId) : ((p.engine settings).originOf (some symbol)).scope? = none :=
  congrArg Origin.scope? (inside symbol)

theorem whole_engine (p : Program) (settings : Settings) :
    (p.engine settings).whole = Engine.start p settings.extraction settings.libraries :=
  going_opened ..

section Orders

variable {p : Program} {settings : Settings} {elapsed : Data} {exports others : List (Option SymbolId)}

/-- The program has its exports run as roots of the engine. -/
structure Program.RunBy (p : Program) (settings : Settings) (e : Engine)
    (exports : List (Option SymbolId)) : Prop where
  listed : (p.symbol p.moduleSymbol).exports.each = .ok exports
  rooted : root (Engine.start p settings.extraction settings.libraries) = root e

/-- A run of the roots after which the extraction succeeds. -/
def Ends (settings : Settings) (e : Engine) (exports : List (Option SymbolId)) (event : Event)
    (final : Walk) : Prop :=
  (∃ tally, exports.foldlM (root e) {} (Walk.emit {} event) = (.ok tally, final)) ∧
    (danglingOf final = [] ∨ settings.extraction.strictRefs = false)

theorem Program.RunBy.ends (runs : p.RunBy settings e exports) {x : Extraction} {after : Walk}
    (ran : extractModule p settings [] elapsed = (.ok x, after)) :
    ∃ event final, Ends settings e exports event final ∧ x.graph = graphOf final ∧
      x.dangling = danglingOf final := by
  obtain ⟨found, tally, final, finished⟩ := finished_of_exportsOf ran
  have listed := finished.listed
  rw [program_start, runs.listed, Except.ok.injEq] at listed
  subst listed
  have rooted := finished.ran
  rw [runs.rooted] at rooted
  have settled := finished.settled
  rw [settings_start] at settled
  exact ⟨_, final, ⟨⟨tally, rooted⟩, settled⟩, finished.graph, finished.dangling⟩

theorem Program.RunBy.succeeds (runs : p.RunBy settings e exports)
    (ends : ∀ event, ∃ final, Ends settings e exports event final) :
    ∃ x after, extractModule p settings [] elapsed = (.ok x, after) := by
  obtain ⟨final, ⟨tally, ran⟩, settled⟩ := ends (started (p.symbol p.moduleSymbol).name exports.length)
  have listed : ((Engine.start p settings.extraction settings.libraries).program.symbol
      (Engine.start p settings.extraction settings.libraries).program.moduleSymbol).exports.each =
        .ok exports := by
    rw [program_start, runs.listed]
  refine exportsOf_ok listed (Eq.trans ?_ ran) (by rwa [settings_start]) elapsed
  rw [program_start, runs.rooted]

theorem runBy_whole (listed : (p.symbol p.moduleSymbol).exports.each = .ok exports) :
    p.RunBy settings (p.engine settings).whole exports :=
  ⟨listed, by rw [whole_engine]⟩

theorem runBy_exporting (listed : (p.symbol p.moduleSymbol).exports.each = .ok exports)
    (permuted : exports.Perm others)
    (apart : (p.engine settings).ModuleApart) :
    (p.exporting others).RunBy settings (p.engine settings).whole others := by
  have inner : (Engine.start p settings.extraction settings.libraries).ModuleApart := by
    intro type known
    rw [program_start] at known ⊢
    exact apart type known
  exact ⟨Program.each_exporting listed permuted, by
    rw [start_exporting apart, root_exporting inner, whole_engine]⟩

end Orders

theorem definite_of_checks {p : Program} {settings : Settings} {exports : List SymbolId}
    (prefixed : settings.extraction.anonymousStart = "__")
    (named : p.NominalsNamed settings.extraction) (aliases : p.AliasesNamed) (bases : p.BasesFit)
    (apart : p.RootsApart settings.extraction) (inside : p.Inside settings.libraries)
    (listed : (p.symbol p.moduleSymbol).exports = some (exports.map some))
    (plain : ∀ symbol ∈ exports, (p.symbol symbol).name ≠ RootKind.defaultName)
    (distinct : (p.engine settings).isDistinct = true)
    (fits : ((List.range p.types.size).map TypeId.mk).all (p.engine settings).fits = true)
    (told : ∀ a ∈ (p.engine settings).claimants exports, ∀ b ∈ (p.engine settings).claimants exports,
      a.1 = b.1 → a.2 = b.2) : (p.engine settings).Definite := by
  have each : (p.symbol p.moduleSymbol).exports.each = .ok (exports.map some) := by
    rw [listed]
    rfl
  have fit := fits_of_range (e := p.engine settings) fits
  exact
    { prefixed, named, aliases, bases, apart
      given := enumerationsGiven_of_fits fit
      distinct := distinct_of_isDistinct inside.scope distinct
      unrivalled := unrivalled_of_claimants inside.scope each plain told
      fitting := fitting_of_fits fit
      shaped := shaped_of_fits fit
      bare := defaultsBare_of_plain each plain }

/-- A box, a label that is an alias, and a notice that extends the box of the label and has one. -/
def noticeProgram : Program :=
  (Program.start "src/index.ts").takes
    [.typeParameter "T" none none,
     .interface
       { header := { name := "Box" }, members := [("value", .plain (some ⟨15⟩))],
         typeParameters := [some ⟨15⟩] },
     .objectLiteral [("text", .plain (some Program.stringType))] [] none none,
     .aliasType { name := "Label" } (some ⟨17⟩) [],
     .instantiate (some ⟨16⟩) [some ⟨17⟩],
     .interface
       { header := { name := "Notice" }, bases := [some ⟨18⟩],
         members := [("label", .plain (some ⟨17⟩))] }]

def noticeExports : List SymbolId := [⟨2⟩, ⟨6⟩, ⟨8⟩]

def noticeReversed : List (Option SymbolId) := (noticeExports.map some).reverse

theorem definite_notice : (noticeProgram.engine {}).Definite := by
  have listed : (noticeProgram.symbol noticeProgram.moduleSymbol).exports =
      some (noticeExports.map some) := by decide +kernel
  refine definite_of_checks rfl
    (Program.nominalsNamed_of_forall (by decide +kernel))
    (Program.aliasesNamed_of_forall (by decide +kernel))
    (Program.basesFit_of_leadsToBases (by decide +kernel))
    (Program.rootsApart_of_leavesShapes (by decide +kernel))
    (Program.inside_of_forall (by decide +kernel)) listed ?_ ?_ ?_ ?_
  all_goals decide +kernel

theorem built_notice : noticeProgram.Built fun call q => call.Disciplined q ∧ call.AddsNew q :=
  built_of_new (by decide +kernel)

theorem runs_notice : (match (extractModule noticeProgram {}).1,
      (extractModule (noticeProgram.exporting noticeReversed) {}).1 with
    | .ok x, .ok y => x.graph.names == ["Box", "Label", "Notice"] &&
        y.graph.names == ["Notice", "Box", "Label"]
    | _, _ => false) = true := by
  decide +kernel

def borrowedProgram (exports : List SymbolId) : Program :=
  (Program.start "src/index.ts").takes
    ([.objectLiteral [("id", .plain (some Program.stringType))] [] none none,
      .aliasType { name := "Loan", fileName := some "mod/x.d.ts", exported := false } (some ⟨15⟩) [],
      .interface { header := { name := "Debt", exported := false }
                   members := [("loan", .plain (some ⟨15⟩))] }] ++
      exports.map fun symbol => Call.addExport (some symbol))

def borrowedSettings : Settings := { libraries := { modules := [("mod", ["mod/*"])] } }

end TypeAtlas
