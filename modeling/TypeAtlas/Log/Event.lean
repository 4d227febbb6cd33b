import TypeAtlas.Fault

/-!
Events of a run, with a level and named details.
-/

namespace TypeAtlas

inductive Level where
  | debug
  | info
  | warning
  | error
  | critical
deriving DecidableEq, Repr, Inhabited

namespace Level

def rank : Level → Nat
  | debug => 10
  | info => 20
  | warning => 30
  | error => 40
  | critical => 50

def name : Level → String
  | debug => "debug"
  | info => "info"
  | warning => "warning"
  | error => "error"
  | critical => "critical"

def label : Level → String
  | debug => "DEBUG"
  | info => "INFO"
  | warning => "WARNING"
  | error => "ERROR"
  | critical => "CRITICAL"

def all : List Level := [debug, info, warning, error, critical]

def ofName? (s : String) : Option Level := all.find? (·.name == s)

def otherNames : Table String Level := [("warn", warning), ("fatal", critical), ("msg", info)]

def named (s : String) : Except Fault Level :=
  match ofName? s, Table.get? otherNames s with
  | some level, _ => .ok level
  | none, some level => .ok level
  | none, none => .error .absent

def ofLabel? (s : String) : Option Level := all.find? (·.label == s)

end Level

structure Event where
  level : Level
  name : String
  details : Table String Data := []
  /-- The name is all that there is to say, wherever the line is not laid out. -/
  plain : Bool := false
deriving Inhabited

def Event.detailed (level : Level) (name : String) (details : Table String Data) :
    Except Fault Event :=
  if ["event", "self"].any (Table.has details) then .error .wrongKind
  else .ok { level, name, details }

end TypeAtlas
