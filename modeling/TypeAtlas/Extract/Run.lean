import TypeAtlas.Extract.Root
import TypeAtlas.Graph

/-!
Extraction runs: all exports of a module, one after the other, and the graph of what was registered.
-/

namespace TypeAtlas

structure RootFailure where
  name : String
  kind : RootKind
  error : Diagnostic
deriving Inhabited

structure Stats where
  rootsExtracted : Nat := 0
  rootsFailed : Nat := 0
  rootsSkipped : Nat := 0
  entries : Nat := 0
  unidentified : Nat := 0
  dangling : Nat := 0
deriving Repr, Inhabited

structure Extraction where
  graph : Graph
  stats : Stats
  failures : List RootFailure
  dangling : List String
deriving Inhabited

/-- A run is clean when no root failed and every reference leads somewhere. -/
def Extraction.ok (x : Extraction) : Bool := x.failures.isEmpty && x.dangling.isEmpty

namespace Extract

def started (home : String) (exports : Nat) : Event :=
  { level := .info, name := "extraction_started"
    details := [("module", .text home), ("exports", .int exports)] }

def rootSkipped (symbol : Symbol) : Event :=
  { level := .debug, name := "root_skipped"
    details := [("name", .text symbol.name), ("flags", .int symbol.flags.value)] }

def rootFailed (failure : RootFailure) : Event :=
  { level := .warning, name := "root_failed"
    details := [("name", .text failure.name), ("kind", .text failure.kind.text),
      ("error", .text failure.error.text)] }

def rootExtracted (name : String) (kind : RootKind) : Event :=
  { level := .debug, name := "root_extracted"
    details := [("name", .text name), ("kind", .text kind.text)] }

def danglingFound (names : List String) : Event :=
  { level := .warning, name := "dangling_refs", details := [("names", .texts names)] }

def completed (stats : Stats) (elapsed : Data) : Event :=
  { level := .info, name := "extraction_complete"
    details := [("entries", .int stats.entries), ("roots", .int stats.rootsExtracted),
      ("failed", .int stats.rootsFailed), ("unidentified", .int stats.unidentified),
      ("elapsed_ms", elapsed)] }

structure Tally where
  extracted : Nat := 0
  skipped : Nat := 0
  failures : List RootFailure := []

/-- Runs a step; a diagnostic is handed over instead of failing the run. -/
def isolated (step : Extract Unit) : Extract (Option Diagnostic) :=
  fun w =>
    match step w with
    | (.ok (), after) => (.ok none, after)
    | (.error (.diagnostic d), after) => (.ok (some d), after)
    | (.error fault, after) => (.error fault, after)

def attempt (e : Engine) (step : Extract Unit) : Extract (Option Diagnostic) :=
  if e.settings.isolateRoots then isolated step else (fun _ => none) <$> step

def root (e : Engine) (tally : Tally) (exported : Option SymbolId) : Extract Tally := do
  let symbol ← present exported
  let record := e.program.symbol symbol
  match RootKind.of? record with
  | none =>
    emit (rootSkipped record)
    pure { tally with skipped := tally.skipped + 1 }
  | some kind =>
    match ← attempt e (e.includeRoot symbol kind) with
    | some error =>
      let failure : RootFailure := { name := record.name, kind, error }
      emit (rootFailed failure)
      pure { tally with failures := tally.failures ++ [failure] }
    | none =>
      emit (rootExtracted record.name kind)
      pure { tally with extracted := tally.extracted + 1 }

def graphOf (w : Walk) : Graph := { entries := w.registry.entries, localNames := w.localNames }

/-- Names referred to without an entry, then names reserved without a body. -/
def danglingOf (w : Walk) : List String := dedup ((graphOf w).dangling ++ w.registry.unfilled)

def exportsOf (e : Engine) (elapsed : Data) : Extract Extraction := do
  let home := e.program.symbol e.program.moduleSymbol
  let exports ← home.exports.each
  emit (started home.name exports.length)
  let tally ← exports.foldlM (root e) {}
  let w ← get
  let graph := graphOf w
  let dangling := danglingOf w
  let stats : Stats :=
    { rootsExtracted := tally.extracted, rootsFailed := tally.failures.length,
      rootsSkipped := tally.skipped, entries := graph.size, unidentified := w.unidentified,
      dangling := dangling.length }
  if !dangling.isEmpty then
    emit (danglingFound dangling)
    if e.settings.strictRefs then diagnose (.danglingRefs dangling)
  emit (completed stats elapsed)
  pure { graph, stats, failures := tally.failures, dangling }

end Extract

/-- Extracts a program from the bindings of earlier runs on. What the walk gathered is returned with
the result, whether the run succeeded or not. -/
def extractModule (p : Program) (settings : Settings) (bindings : Bindings := [])
    (elapsed : Data := .null) : Except Fault Extraction × Walk :=
  let e := Engine.start p settings.extraction settings.libraries
  Extract.exportsOf e elapsed { bindings }

end TypeAtlas
