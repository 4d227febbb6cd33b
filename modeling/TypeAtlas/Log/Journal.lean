import TypeAtlas.Disk
import TypeAtlas.Log.Line

/-!
Effects, which are what a run writes, in order, and what each place holds after it; and journals: where
the events of a run go, and which of them. Main statement: an event is written to
an output exactly when it reaches both the level of the journal and that of the output.
-/

namespace TypeAtlas

inductive Effect where
  /-- To standard output. -/
  | print (text : String)
  /-- To standard error. -/
  | report (text : String)
  /-- To the end of a file, which is made when it is not there. -/
  | append (path : String) (text : String)
  /-- As the new content of a file. -/
  | replace (path : String) (text : String)
deriving DecidableEq, Repr, Inhabited

namespace Effect

def printed (effects : List Effect) : String :=
  String.join (effects.map fun
    | print text => text
    | _ => "")

def reported (effects : List Effect) : String :=
  String.join (effects.map fun
    | report text => text
    | _ => "")

def onFile (path : String) (content : Option String) : Effect → Option String
  | append written text => if written = path then some (content.getD "" ++ text) else content
  | replace written text => if written = path then some text else content
  | _ => content

def fileAfter (path : String) (before : Option String) (effects : List Effect) : Option String :=
  effects.foldl (onFile path) before

end Effect

structure Sink where
  destination : String
  format : LogFormat
  least : Level

structure Journal where
  least : Level
  sinks : List Sink

def Level.reaches (level least : Level) : Bool := least.rank ≤ level.rank

namespace Sink

def ofOutput (least : Level) (output : LogOutput) : Sink :=
  { destination := output.destination, format := output.format, least := output.level.getD least }

def write (sink : Sink) (text : String) : Effect :=
  if sink.destination = "stderr" then .report text
  else if sink.destination = "stdout" then .print text
  else .append (Disk.placeOf sink.destination) text

def isFile (sink : Sink) : Bool := sink.destination != "stderr" && sink.destination != "stdout"

end Sink

namespace Journal

def ofSettings (s : LoggingSettings) (verbose : Bool := false) : Journal :=
  let least := if verbose then .debug else s.level
  { least, sinks := s.outputs.map (Sink.ofOutput least) }

/-- Files are made before the first event, up to one that cannot be made. -/
def openFiles (disk : Disk) : List Sink → List Effect × Except Fault Disk
  | [] => ([], .ok disk)
  | sink :: rest =>
    if sink.isFile then
      match disk.readied sink.destination with
      | .error fault => ([], .error fault)
      | .ok grown =>
        let (effects, result) := openFiles grown rest
        (sink.write "" :: effects, result)
    else openFiles disk rest

def opening (journal : Journal) (disk : Disk) : List Effect × Except Fault Disk :=
  openFiles disk journal.sinks

def takers (journal : Journal) (level : Level) : List Sink :=
  journal.sinks.filter fun sink => level.reaches journal.least && level.reaches sink.least

/-- A journal without any output still reports what is a warning or worse. -/
def recordBare (journal : Journal) (stamp : Stamp) (event : Event) : List Effect :=
  if event.level.reaches journal.least && event.level.reaches .warning then
    [.report (event.bareLine stamp ++ "\n")]
  else []

def record (journal : Journal) (stamp : Stamp) (event : Event) : List Effect :=
  if journal.sinks.isEmpty then journal.recordBare stamp event
  else
    (journal.takers event.level).map fun sink => sink.write (event.line stamp sink.format ++ "\n")

def recordAll (journal : Journal) (stamp : Stamp) (events : List Event) : List Effect :=
  events.flatMap (journal.record stamp)

end Journal

end TypeAtlas
