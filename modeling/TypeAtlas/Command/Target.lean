import TypeAtlas.Disk
import TypeAtlas.Program.Basic
import TypeAtlas.Script.Step

/-!
Targets: a module and a subject of it, joined by a colon, as a command names a program. They are looked
up on a host: a disk, environment variables and the catalogue of programs. A module of the catalogue is
a map of subjects, each a program described by its steps or a value on its own.
-/

namespace TypeAtlas.Command

/-- What a target leads to: a program, or a plain value that is none. -/
inductive Subject where
  | program (p : Program)
  | value (d : Data)
deriving Inhabited

abbrev Catalogue := Table String (Table String Subject)

structure Host where
  homes : Homes
  /-- The file of settings for all projects. -/
  sharedSettings : String
  disk : Disk := {}
  environment : Table String String := []
  catalogue : Catalogue := []
  /-- The time that events are stamped with. -/
  time : String := ""
  /-- The duration reported at the end of an extraction. -/
  elapsed : Data := .null
  run : String := ""

def valueName : Data → String
  | .null => "NoneType"
  | .bool _ => "bool"
  | .int _ => "int"
  | .float _ => "float"
  | .text _ => "str"
  | .list _ => "list"
  | .map _ => "dict"
  | .keyed _ => "dict"
  | .moment _ _ => "date"

/-- Why a module is not there: the first part of its dotted name that is missing. -/
def absence (catalogue : Catalogue) (moduleName : String) : String :=
  let parts := moduleName.splitOn "."
  let leading := (List.range parts.length).map fun n => ".".intercalate (parts.take (n + 1))
  let known := leading.takeWhile (Table.has catalogue)
  let missing := leading.getD known.length moduleName
  "No module named " ++ Text.quoted missing ++
    (match known.getLast? with
     | some parent => "; " ++ Text.quoted parent ++ " is not a package"
     | none => "")

/-- Why a command does not go on: the user is told a reason, or a fault breaks it off. -/
inductive Halt where
  | said (reason : String)
  | fault (f : Fault)

/-- The kinds of what every module holds under a name of its own, whatever its subjects are; nothing
where it cannot be had from outside. -/
def ownNames : Table String (Option String) :=
  let had := [("__annotations__", "dict"), ("__dict__", "dict"), ("__dir__", "list"),
    ("__getstate__", "dict"), ("__hash__", "int"), ("__init_subclass__", "NoneType"),
    ("__name__", "str"), ("__repr__", "str"), ("__sizeof__", "int"), ("__str__", "str"),
    ("__subclasshook__", "NotImplementedType")]
  let closed := ["__class__", "__delattr__", "__eq__", "__format__", "__ge__", "__getattribute__",
    "__gt__", "__init__", "__le__", "__lt__", "__ne__", "__new__", "__reduce__", "__reduce_ex__",
    "__setattr__"]
  (had.map fun (name, kind) => (name, some kind)) ++ closed.map fun name => (name, none)

def programOf (moduleName name : String) (subject : Option Subject) : Except Halt Program :=
  let absent := Halt.said ("'" ++ moduleName ++ "' has no attribute '" ++ name ++ "'")
  let wrong (kind : String) : Halt :=
    .said ("'" ++ moduleName ++ ":" ++ name ++ "' returned " ++ kind ++ ", expected OracleProgram")
  match subject, Table.get? ownNames name with
  | some (.program p), _ => .ok p
  | some (.value .null), _ => .error absent
  | some (.value value), _ => .error (wrong (valueName value))
  | none, some (some kind) => .error (wrong kind)
  | none, some none => .error (.fault .wrongKind)
  | none, none => .error absent

def resolve (catalogue : Catalogue) (target : String) : Except Halt Program :=
  let cs := target.toList
  let moduleChars := cs.takeWhile (· ≠ ':')
  let moduleName := String.ofList moduleChars
  let name := String.ofList (cs.drop (moduleChars.length + 1))
  if moduleName.isEmpty || name.isEmpty then
    .error (.said ("Target must look like 'package.module:callable', got '" ++ target ++ "'"))
  else if moduleName.startsWith "." then .error (.fault .wrongKind)
  else
    match Table.get? catalogue moduleName with
    | none =>
      .error (.said ("Cannot import '" ++ moduleName ++ "': " ++ absence catalogue moduleName))
    | some subjects => programOf moduleName name (Table.get? subjects name)

def subjectOf (lastId : Nat) (d : Data) : Subject × Nat :=
  match (d.field? "steps").bind Data.asList? with
  | some steps =>
    let fileName := ((d.field? "file_name").bind Data.asText?).getD "src/index.ts"
    let p := Script.build fileName steps lastId
    (.program p, p.lastId)
  | none => (.value ((d.field? "value").getD .null), lastId)

def subjectsFrom (lastId : Nat) : List (String × Data) → Table String Subject
  | [] => []
  | (name, d) :: rest =>
    let (subject, last) := subjectOf lastId d
    (name, subject) :: subjectsFrom last rest

def subjectsOf (described : List (String × Data)) : Table String Subject :=
  Table.ofPairs (subjectsFrom 0 described)

end TypeAtlas.Command
