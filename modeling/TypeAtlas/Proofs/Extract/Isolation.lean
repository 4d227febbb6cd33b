import TypeAtlas.Proofs.Extract.RootWays
import TypeAtlas.Proofs.Extract.Tally

/-!
What isolated roots report. An exported declaration of a program's own is in the graph at the end, or
among the failures, unless an earlier failure had left its name reserved when its root began: then the
root takes the declaration for built.
-/

namespace TypeAtlas

namespace Program

/-- No class, interface or enumeration goes by another name. -/
def Unaliased (p : Program) : Prop :=
  ∀ symbol, (p.symbol symbol).isTypeSymbol = true → ∀ type,
    (p.symbol symbol).answers.declared = some (some type) → (p.type type).alias? = none

def isUnaliased (p : Program) (s : Symbol) : Bool :=
  !s.isTypeSymbol || match s.answers.declared with
    | some (some type) => (p.type type).alias?.isNone
    | _ => true

theorem unaliased_of_forall {p : Program} (each : ∀ s ∈ p.symbols.toList, p.isUnaliased s = true) :
    p.Unaliased := by
  intro symbol isType type declared
  have checked := p.symbol_of_forall (fun s => p.isUnaliased s = true) rfl each symbol
  simpa [isUnaliased, isType, declared] using checked

/-- Nothing that the program declares comes from outside. -/
def Inside (p : Program) (libraries : LibrarySettings) : Prop :=
  ∀ symbol, libraries.originOf ((p.symbol symbol).declarations.first?.bind p.fileOf) = .own

theorem inside_of_forall {p : Program} {libraries : LibrarySettings}
    (each : ∀ s ∈ p.symbols.toList,
      libraries.originOf (s.declarations.first?.bind p.fileOf) = .own) : p.Inside libraries :=
  p.symbol_of_forall (fun s => libraries.originOf (s.declarations.first?.bind p.fileOf) = .own)
    rfl each

theorem local_of_inside {p : Program} {libraries : LibrarySettings} (inside : p.Inside libraries)
    (unaliased : p.Unaliased) (e : Engine) (program : e.program = p) (same : e.libraries = libraries) :
    e.Local := by
  subst program same
  refine ⟨?_, unaliased⟩
  intro symbol
  cases symbol with
  | none => rfl
  | some symbol =>
      have own : e.originOf (some symbol) = .own := inside symbol
      rw [own]
      rfl

end Program

namespace Extract

variable {e : Engine}

/-- What has become of an exported symbol whose root began with a tally and a walk, at the end of the
run. -/
inductive Became (e : Engine) (tally : Tally) (w : Walk) (symbol : SymbolId) (x : Extraction)
    (final : Walk) : Prop
  | skipped (unsuited : RootKind.of? (e.program.symbol symbol) = none)
  | failed (kind : RootKind) (error : Diagnostic)
      (suited : RootKind.of? (e.program.symbol symbol) = some kind)
      (raised : (e.includeRoot symbol kind w).1 = .error (.diagnostic error))
      (listed : { name := (e.program.symbol symbol).name, kind, error } ∈ x.failures)
  | extracted (kind : RootKind)
      (suited : RootKind.of? (e.program.symbol symbol) = some kind)
      (succeeded : (e.includeRoot symbol kind w).1 = .ok ())
      (stands : final.Stands (e.program.symbol symbol).name ∨
        kind = .type ∧ w.registry.isPlaceholder (e.program.symbol symbol).name = true ∧
          tally.failures ≠ [])

/-- What is neither skipped nor among the failures is there, if its name was not reserved. -/
theorem Became.stands {tally : Tally} {w final : Walk} {symbol : SymbolId} {x : Extraction}
    (became : Became e tally w symbol x final)
    (suited : (RootKind.of? (e.program.symbol symbol)).isSome = true)
    (unlisted : (e.program.symbol symbol).name ∉ x.failures.map (·.name))
    (clear : w.registry.isPlaceholder (e.program.symbol symbol).name = false) :
    final.Stands (e.program.symbol symbol).name := by
  cases became with
  | skipped unsuited =>
      rw [unsuited] at suited
      cases suited
  | failed kind error _ _ listed => exact absurd (List.mem_map.mpr ⟨_, listed, rfl⟩) unlisted
  | extracted kind _ _ stands =>
      rcases stands with stands | ⟨-, stale, -⟩
      · exact stands
      · rw [clear] at stale
        cases stale

section Roots

variable {manner : Manner} {ages : Ages} {now : Nat} (fits : e.program.Fits manner ages now)
  (own : e.Local) (ordered : e.Orderly)
include fits own ordered

omit fits own in
/-- Nothing is reserved before the first failure. -/
theorem unreserved_of_roots {exports : List (Option SymbolId)}
    (registered : ∀ symbol, some symbol ∈ exports →
      (e.program.symbol symbol).name = RootKind.defaultName → e.DefaultsRegistered)
    {begun w : Walk} {tally : Tally} (fresh : ∀ name, begun.registry.isPlaceholder name = false)
    (ran : exports.foldlM (root e) {} begun = (.ok tally, w)) (unfailed : tally.failures = [])
    (name : String) : w.registry.isPlaceholder name = false := by
  refine holds_of_roots (fun w => ∀ name, w.registry.isPlaceholder name = false) ?_ ?_ ran
    (fun _ => fresh) unfailed name
  · exact fun w event clear => clear
  · intro symbol member kind suited w after stepped clear name
    have defaults : kind = .default → e.DefaultsRegistered := by
      rintro rfl
      exact registered symbol member (Engine.of?_cases suited)
    have settled := (Engine.settles_includeRoot ordered symbol kind defaults).settled w _ after stepped
    cases reserved : after.registry.isPlaceholder name with
    | false => rfl
    | true =>
        have before := settled name reserved
        rw [clear name] at before
        cases before

theorem became_of_rooted {tally found last : Tally} {symbol : SymbolId} {w between final : Walk}
    {x : Extraction} (rooted : Rooted e tally w symbol found between)
    (reserved : tally.failures = [] → ∀ name, w.registry.isPlaceholder name = false)
    (kept : found.failures ⊆ last.failures) (same : x.failures = last.failures)
    (lasting : ∀ name, between.Stands name → final.Stands name) : Became e tally w symbol x final := by
  cases rooted with
  | skipped unsuited _ => exact .skipped unsuited
  | failed _ suited ran _ =>
      refine .failed _ _ suited (by rw [ran]) ?_
      rw [same]
      exact kept (List.mem_append_right _ (List.mem_singleton.mpr rfl))
  | extracted suited ran event =>
      refine .extracted _ suited (by rw [ran]) ?_
      rcases Engine.stands_of_includeRoot fits own ordered suited ran with stands | ⟨type, stale⟩
      · exact Or.inl (lasting _ stands)
      · refine Or.inr ⟨type, stale, fun unfailed => ?_⟩
        rw [reserved unfailed] at stale
        cases stale

theorem became_of_finished {begun after final : Walk} {exports : List (Option SymbolId)}
    {last : Tally} {x : Extraction} (finished : Finished e begun exports last final x after)
    (fresh : ∀ name, begun.registry.isPlaceholder name = false)
    {before rest : List (Option SymbolId)} {symbol : SymbolId}
    (split : exports = before ++ some symbol :: rest) :
    ∃ tally w, before.foldlM (root e) {}
        (begun.emit (started (e.program.symbol e.program.moduleSymbol).name exports.length)) =
          (.ok tally, w) ∧
      Became e tally w symbol x after := by
  obtain ⟨tally, w, found, between, first, rooted, ran⟩ := finished.split split
  refine ⟨tally, w, first, ?_⟩
  refine became_of_rooted fits own ordered rooted ?_ (counts_of_roots ran).1 finished.failures ?_
  · have clear : ∀ name, (begun.emit (started (e.program.symbol e.program.moduleSymbol).name
        exports.length)).registry.isPlaceholder name = false := fresh
    have registered := Engine.defaultsRegistered_of_local fits own ordered
    exact fun unfailed => unreserved_of_roots ordered (fun _ _ _ => registered) clear first unfailed
  · intro name stands
    have advances := Engine.advances_exports ordered fits rest found
    obtain ⟨node, filled⟩ := (advances.after ran).stands stands
    exact ⟨node, by rwa [finished.registry]⟩

end Roots

end Extract

theorem fits_start {p : Program} {allowed : Call → Program → Prop} (built : p.Built allowed)
    (settings : ExtractionSettings) (libraries : LibrarySettings) :
    ∃ ages, (Engine.start p settings libraries).program.Fits { disciplined := False, nameless := False }
      ages p.types.size := by
  obtain ⟨ages, live⟩ := live_of_built { disciplined := False, nameless := False } built
    fun _ _ _ => ⟨False.elim, False.elim⟩
  rw [Engine.program_start]
  exact ⟨ages, live.toFits⟩

open Engine Extract in
/-- Every export of a program of its own is skipped, is among the failures, or is in the graph at the
end, unless it is a type whose name an earlier failure had left reserved when its root began. -/
theorem extractModule_isolates {p : Program} {allowed : Call → Program → Prop}
    (built : p.Built allowed) (settings : Settings) (inside : p.Inside settings.libraries)
    (unaliased : p.Unaliased) (bindings : Bindings) (elapsed : Data) {x : Extraction} {after : Walk}
    (ran : extractModule p settings bindings elapsed = (.ok x, after)) :
    ∃ exports, (p.symbol p.moduleSymbol).exports.each = .ok exports ∧
      x.stats.rootsExtracted + x.stats.rootsFailed + x.stats.rootsSkipped = exports.length ∧
      x.stats.rootsFailed = x.failures.length ∧
      ∀ before symbol rest, exports = before ++ some symbol :: rest →
        ∃ tally w, before.foldlM (root (start p settings.extraction settings.libraries)) {}
            (Walk.emit { bindings } (started (p.symbol p.moduleSymbol).name exports.length)) =
              (.ok tally, w) ∧
          Became (start p settings.extraction settings.libraries) tally w symbol x after := by
  let e := start p settings.extraction settings.libraries
  have program : e.program = p := program_start _ _ _
  have own : e.Local := Program.local_of_inside inside unaliased e program (libraries_start _ _ _)
  obtain ⟨ages, fits⟩ := fits_start built settings.extraction settings.libraries
  have ordered : e.Orderly := orderly_start _ _ _
  obtain ⟨exports, last, final, finished⟩ := finished_of_exportsOf ran
  have listed := finished.listed
  have became {before rest : List (Option SymbolId)} {symbol : SymbolId}
      (split : exports = before ++ some symbol :: rest) :=
    became_of_finished fits own ordered finished (fun _ => rfl) split
  rw [program] at listed became
  refine ⟨exports, listed, ?_, ?_, fun before symbol rest split => became split⟩
  · have counted := (counts_of_roots finished.ran).2
    rw [finished.extracted, finished.failed, finished.skipped]
    simpa using counted
  · rw [finished.failed, finished.failures]

/-- A declaration that cannot be built, since a parameter has no type, and one that mentions it. -/
def brokenSpec (exported : Bool) : Build.InterfaceSpec :=
  { header := { name := "Broken", exported }
    members := [("run", .method { parameters := [{ name := "input", type := none }],
                                  returns := some Program.voidType })] }

def mentionSpec : Build.InterfaceSpec :=
  { header := { name := "Mention" }, members := [("broken", .plain (some ⟨15⟩))] }

def isolatedSettings : Settings := { extraction := { isolateRoots := true } }

def brokenFirst : Program :=
  (Program.start "src/index.ts").takes [.interface (brokenSpec true), .interface mentionSpec]

def brokenLast : Program :=
  (Program.start "src/index.ts").takes
    [.interface (brokenSpec false), .interface mentionSpec, .addExport (some ⟨1⟩)]

theorem built_of_specs {calls : List Call}
    (passed : Program.passes (fun _ _ => true) calls (.start "src/index.ts") = true) :
    ((Program.start "src/index.ts").takes calls).Built fun _ _ => True :=
  Program.built_takes (fun _ _ => true) (fun _ _ _ => trivial) (.start _ _) passed

def isolatedEngine : Engine :=
  .start brokenFirst isolatedSettings.extraction isolatedSettings.libraries

def afterBroken : Except Fault Extract.Tally × Walk :=
  [some ⟨1⟩].foldlM (Extract.root isolatedEngine) {}
    (Walk.emit {} (Extract.started (brokenFirst.symbol brokenFirst.moduleSymbol).name 2))

theorem runs_broken : (match (extractModule brokenFirst isolatedSettings).1 with
    | .ok x => x.failures.map (·.name) == ["Broken"]
    | .error _ => false) = true := by
  decide +kernel

open Engine Extract in
/-- With the broken one first, only that fails, and the other one is there. -/
theorem extractModule_isolates_broken : ∃ x after,
    extractModule brokenFirst isolatedSettings = (.ok x, after) ∧
      x.failures.map (·.name) = ["Broken"] ∧ after.Stands "Mention" := by
  have built : brokenFirst.Built fun _ _ => True := built_of_specs (by decide +kernel)
  have inside : brokenFirst.Inside isolatedSettings.libraries :=
    Program.inside_of_forall (by decide +kernel)
  have unaliased : brokenFirst.Unaliased := Program.unaliased_of_forall (by decide +kernel)
  have exported : (brokenFirst.symbol brokenFirst.moduleSymbol).exports =
      some [some ⟨1⟩, some ⟨4⟩] := by decide +kernel
  have name : (isolatedEngine.program.symbol ⟨4⟩).name = "Mention" := by decide +kernel
  have suited : (RootKind.of? (isolatedEngine.program.symbol ⟨4⟩)).isSome = true := by
    decide +kernel
  have clear : afterBroken.2.registry.isPlaceholder "Mention" = false := by decide +kernel
  have extracted := runs_broken
  rcases ran : extractModule brokenFirst isolatedSettings with ⟨fault | x, after⟩
  · rw [ran] at extracted
    cases extracted
  · rw [ran] at extracted
    have failed : x.failures.map (·.name) = ["Broken"] := by simpa using extracted
    obtain ⟨exports, listed, -, -, became⟩ :=
      extractModule_isolates built isolatedSettings inside unaliased [] .null ran
    rw [exported] at listed
    cases listed
    obtain ⟨tally, w, first, became⟩ := became [some ⟨1⟩] ⟨4⟩ [] rfl
    have became : Became isolatedEngine tally w ⟨4⟩ x after := became
    have first : afterBroken = (.ok tally, w) := first
    rw [first] at clear
    have stands := became.stands suited (by rw [name, failed]; decide) (by rw [name]; exact clear)
    rw [name] at stands
    exact ⟨x, after, rfl, failed, stands⟩

/-- With the broken one last, the other one fails in its place, and the broken one counts as extracted
although its name is only reserved. -/
theorem extractModule_takes_reserved : brokenLast.Built (fun _ _ => True) ∧
    (match extractModule brokenLast isolatedSettings with
      | (.ok x, after) => x.stats.rootsExtracted == 1 && x.failures.map (·.name) == ["Mention"] &&
          after.registry.isPlaceholder "Broken"
      | _ => false) = true :=
  ⟨built_of_specs (by decide +kernel), by decide +kernel⟩

end TypeAtlas
