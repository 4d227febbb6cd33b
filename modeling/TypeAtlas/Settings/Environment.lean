import TypeAtlas.Data.JsonReader
import TypeAtlas.Data.Merge
import TypeAtlas.Fault

/-!
Settings from environment variables, in any case: `TYPEGRAPH__SECTION` holds a section as JSON, and
`TYPEGRAPH__SECTION__KEY` one key of it, which has the last word.
-/

namespace TypeAtlas.Environment

/-- A section by its name, with its keys of single values and its keys of lists and maps. -/
structure Outline where
  name : String
  single : List String
  nested : List String

def outlines : List Outline :=
  [⟨"logging", ["level"], ["outputs"]⟩,
   ⟨"extraction",
    ["isolate_roots", "strict_refs", "hidden_anonymous_max_hops", "anonymous_prefix"], []⟩,
   ⟨"libraries", [], ["base_lib_patterns", "global_patterns", "modules"]⟩,
   ⟨"output", ["indent", "include_prop_ids"], []⟩]

namespace Outline

def variableName (o : Outline) : String := "typegraph__" ++ o.name

/-- The value of a variable below the section. Lists and maps are written in JSON; of a value below
a map, JSON is read where it is JSON. -/
def read (o : Outline) (path : List String) (text : String) : Except Fault Data :=
  if text.isEmpty then .ok (.text text)
  else
    match path with
    | [key] =>
      if o.nested.contains key then
        match Data.ofJson? text with
        | some value => .ok value
        | none => .error (.unreadable o.name)
      else .ok (.text text)
    | ["modules", _] => .ok ((Data.ofJson? text).getD (.text text))
    | _ => .ok (.text text)

/-- Sets a value along a path of keys. A value that is no map keeps what lies below it out. -/
def insertAt : List String → Data → Table String Data → Table String Data
  | [], _, fields => fields
  | [key], value, fields => Table.put fields key value
  | key :: rest, value, fields =>
    match Table.get? fields key with
    | some (.map inner) => Table.put fields key (.map (insertAt rest value inner))
    | some _ => fields
    | none => Table.put fields key (.map (insertAt rest value []))

def below (o : Outline) (vars : Table String String) : Except Fault (Table String Data) :=
  vars.foldlM
    (fun fields (name, text) => do
      let start := o.variableName ++ "__"
      if name.startsWith start then
        let path := (String.ofList (name.toList.drop start.length)).splitOn "__"
        return insertAt path (← o.read path text) fields
      else return fields)
    []

def respelled (o : Outline) (fields : Table String Data) : Table String Data :=
  Table.ofPairs (fields.map fun (name, value) =>
    (((o.single ++ o.nested).find? (· == name.toLower)).getD name, value))

def value? (o : Outline) (vars : Table String String) : Except Fault (Option Data) :=
  match Table.get? vars o.variableName with
  | none => do
    let fields ← o.below vars
    return if fields.isEmpty then none else some (.map (o.respelled fields))
  | some text =>
    match Data.ofJson? text with
    | none => .error (.unreadable o.name)
    | some .null => .ok none
    | some (.map whole) => do
      return some (.map (o.respelled (Data.mergeFields whole (← o.below vars))))
    | some other => .ok (some other)

end Outline

def sections (vars : Table String String) : Except Fault (Table String Data) := do
  let lowered := Table.ofPairs (vars.map fun (name, text) => (name.toLower, text))
  let read ← outlines.mapM fun o => do return (← o.value? lowered).map fun value => (o.name, value)
  return read.filterMap id

end TypeAtlas.Environment
