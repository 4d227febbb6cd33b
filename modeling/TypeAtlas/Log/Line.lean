import TypeAtlas.Data.Json
import TypeAtlas.Log.Event
import TypeAtlas.Settings.Basic

/-!
Log lines: an event with its time and its run, as JSON or as text for a reader.
-/

namespace TypeAtlas

structure Stamp where
  time : String
  run : Option String := none

namespace Event

def fields (event : Event) (stamp : Stamp) : Table String Data :=
  let timed := Table.put
    (Table.put (Table.put event.details "event" (.text event.name)) "level"
      (.text event.level.name))
    "timestamp" (.text stamp.time)
  match stamp.run with
  | some run => if run.isEmpty then timed else Table.put timed "run_id" (.text run)
  | none => timed

def jsonLine (event : Event) (stamp : Stamp) : String := (Data.map (event.fields stamp)).json {}

/-- Texts stand as they are unless a blank, a quotation mark or an equals sign would mislead. -/
def consoleValue : Data → String
  | .text s =>
    if s.toList.any fun c =>
        c == ' ' || c == '\t' || c == '=' || c == '\r' || c == '\n' || c == Text.single ||
          c == Text.double then Text.quoted s
    else s
  | value => value.shown

def placed : List String :=
  ["event", "level", "timestamp", "logger", "logger_name", "stack", "exception", "exc_info"]

def consoleTrail (fields : Table String Data) : String :=
  let given (name : String) : Option String :=
    match Table.get? fields name with
    | none | some .null => none
    | some value => some value.plain
  let isRaised := (given "exception").isSome || (Table.get? fields "exc_info").any Data.holds
  let rule := String.ofList (List.replicate 79 '=')
  (match given "stack" with
   | some stack => "\n" ++ stack ++ (if isRaised then "\n\n" ++ rule ++ "\n" else "")
   | none => "") ++
  (match given "exception" with
   | some exception => "\n" ++ exception
   | none => "")

def consoleLine (event : Event) (stamp : Stamp) : String :=
  let fields := event.fields stamp
  let loggers := ["logger", "logger_name"].filterMap fun name =>
    (Table.get? fields name).map fun value => "[" ++ value.plain ++ "]"
  let others := fields.filter fun (name, _) => !placed.contains name
  let sorted := others.mergeSort fun a b => decide (a.1 ≤ b.1)
  let pairs := sorted.map fun (name, value) => name ++ "=" ++ consoleValue value
  let parts := [stamp.time, "[" ++ event.level.name ++ "]", event.name] ++ loggers ++ pairs
  let line := " ".intercalate (parts.filter fun part => !part.isEmpty)
  String.ofList (line.toList.reverse.dropWhile (· == ' ')).reverse ++ consoleTrail fields

def bareLine (event : Event) (stamp : Stamp) : String :=
  if event.plain then event.name else (Data.map (event.fields stamp)).shown

def line (event : Event) (stamp : Stamp) : LogFormat → String
  | .json => event.jsonLine stamp
  | .console => event.consoleLine stamp

end Event

end TypeAtlas
