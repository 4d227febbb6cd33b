import TypeAtlas.Command.Request
import TypeAtlas.Command.Target
import TypeAtlas.Extract.Run
import TypeAtlas.Fault
import TypeAtlas.Graph
import TypeAtlas.Log.Journal
import TypeAtlas.Settings.Sources
import TypeAtlas.Status
import TypeAtlas.Text.Cells

/-!
Running a command on a host: its exit code and all that it writes, in order. A graph is shown as a table
of its entries with a title above it.
-/

namespace TypeAtlas.Command.Overview

open Text

abbrev Row := List String

def widths : List Row → List Nat
  | [] => []
  | [row] => row.map Cells.measure
  | row :: rest => List.zipWith max (row.map Cells.measure) (widths rest)

/-- The lines of a row between the given borders. A cell with fewer lines than others is blank below
them. -/
def rowLines (columns : List Nat) (border : String) (row : Row) : List String :=
  let cells := (columns.zip row).map fun (width, cell) =>
    (width, (Cells.layOut .ellipsis width cell).map (Cells.alignLeft .ellipsis width))
  let height := (cells.map fun (_, lines) => lines.length).foldl max 1
  (List.range height).map fun index =>
    let parts := cells.map fun (width, lines) =>
      " " ++ lines.getD index (String.ofList (Cells.spaces width)) ++ " "
    border ++ border.intercalate parts ++ border

def rule (columns : List Nat) (fill : Char) (left middle right : String) : String :=
  let runs := columns.map fun width => String.ofList (List.replicate (width + 2) fill)
  left ++ middle.intercalate runs ++ right

def tableWidth (columns : List Nat) : Nat := columns.foldl (fun all column => all + column + 3) 1

def tableLines (columns : List Nat) (header : Row) (rows : List Row) : List String :=
  [rule columns '━' "┏" "┳" "┓"] ++ rowLines columns "┃" header ++
    [rule columns '━' "┡" "╇" "┩"] ++ rows.flatMap (rowLines columns "│") ++
    [rule columns '─' "└" "┴" "┘"]

def titleLines (width : Nat) (title : String) : List String :=
  (Cells.layOut .fold width title).map (Cells.center width)

def header : Row := ["Name", "Kind", "Summary"]

def shown (s : String) : Except Fault String :=
  match Markup.plain s with
  | .ok text => .ok text
  | .error problem => .error (.ofMarkup problem)

def rows (g : Graph) : Except Fault (List Row) := do
  let names ← g.entries.mapM fun (name, _) => shown name
  let summaries ← g.entries.mapM fun (_, node) => shown node.summary
  return (names.zip (g.entries.zip summaries)).map fun (name, (_, node), summary) =>
    [name, node.kind, summary]

def render (home : String) (g : Graph) : Except Fault String := do
  let rows ← rows g
  let title ← shown (home ++ " (" ++ toString g.size ++ " entries)")
  let columns := widths (header :: rows)
  let lines := titleLines (tableWidth columns) title ++ tableLines columns header rows
  return String.join (lines.map (· ++ "\n"))

end TypeAtlas.Command.Overview

namespace TypeAtlas.Command

structure Outcome where
  exit : Nat
  effects : List Effect
  /-- The fault that broke the command off, if the user was not told another reason. -/
  fault : Option Fault := none
deriving Inhabited

abbrev Work := ExceptT Halt (StateM (List Effect))

namespace Work

def write (effects : List Effect) : Work Unit := modify (· ++ effects)

/-- Goes on with a result. Of the faults, only diagnostics have something to say to the user. -/
def ofExcept {α : Type} : Except Fault α → Work α
  | .ok value => pure value
  | .error (.diagnostic d) => throw (.said d.text)
  | .error fault => throw (.fault fault)

def note (message : String) (mark : Status.Mark) : Work Unit := do
  write [.report (← ofExcept (Status.line message mark))]

/-- The outcome of all the work. The user is told why it halted in a last line. -/
def outcome (work : Work Unit) : Outcome :=
  match work.run.run [] with
  | (.ok (), effects) => { exit := 0, effects }
  | (.error (.said reason), effects) =>
    { exit := 1, effects := effects ++ [.report ("Error: " ++ reason ++ "\n")] }
  | (.error (.fault fault), effects) => { exit := 1, effects, fault := some fault }

end Work

def settingsFile? (host : Host) (path : String) : Option SettingsFile :=
  (host.disk.text? path).map fun text => { path, text }

/-- The settings of a job. Flags of the command line have the last word. -/
def settingsOf (host : Host) (job : Job) : Except Fault Settings :=
  let flags :=
    match job.action with
    | .extract _ strict isolate =>
      (if strict then [("strict_refs", Data.bool true)] else []) ++
        (if isolate then [("isolate_roots", Data.bool true)] else [])
    | .overview => []
  Settings.ofSources
    { homes := host.homes
      project := settingsFile? host
        (Disk.below (job.project.getD "") [".typegraph", "config.yaml"])
      shared := settingsFile? host host.sharedSettings
      environment := host.environment
      overrides := if flags.isEmpty then [] else [("extraction", .map flags)] }

def deliver (disk : Disk) (x : Extraction) (settings : Settings) (output : Option String) :
    Work Unit := do
  let text := x.graph.toJson settings.output.indent settings.output.includePropIds ++ "\n"
  match output with
  | none => Work.write [.print text]
  | some path =>
    let _ ← Work.ofExcept (disk.readied path)
    Work.write [.replace (Disk.placeOf path) text]
    let shown := (Text.FilePath.parse path).text
    Work.note ("Wrote " ++ toString x.graph.size ++ " entries to " ++ shown) .success

def closing (x : Extraction) : Work Unit := do
  for failure in x.failures do
    Work.note (failure.name ++ ": " ++ failure.error.text) .error
  if !x.dangling.isEmpty then
    Work.note ("Dangling references: " ++ ", ".intercalate x.dangling) .warning

/-- Settings first, then the target, then the extraction with its log, then what the action makes of
it. -/
def perform (host : Host) (job : Job) : Work Unit := do
  let settings ← Work.ofExcept (settingsOf host job)
  let journal := Journal.ofSettings settings.logging job.verbose
  let (made, opened) := journal.opening host.disk
  Work.write made
  let disk ← Work.ofExcept opened
  let p ← resolve host.catalogue job.target
  let (result, walk) := extractModule p settings [] host.elapsed
  let stamp : Stamp := { time := host.time, run := some host.run }
  Work.write (journal.recordAll stamp walk.events.toList)
  let x ← Work.ofExcept result
  match job.action with
  | .extract output _ _ =>
    deliver disk x settings output
    closing x
  | .overview =>
    let table ← Work.ofExcept (Overview.render (p.symbol p.moduleSymbol).name x.graph)
    Work.write [.print table]

def run (host : Host) (arguments : List String) : Outcome :=
  match Request.ofArguments host arguments with
  | .version => { exit := 0, effects := [.print Page.versionNote] }
  | .help page => { exit := 0, effects := [.print page.help] }
  | .bare => { exit := 2, effects := [.report Page.group.help] }
  | .mistake page error => { exit := 2, effects := [.report (page.refusal error)] }
  | .job job => (perform host job).outcome

end TypeAtlas.Command
