import TypeAtlas.Data.Yaml
import TypeAtlas.Settings.Environment
import TypeAtlas.Settings.Reader

/-!
Settings gathered from their sources: overrides over the environment, over the file of the project,
over the file shared by all projects, over the built-in values. Sources are merged key by key.
-/

namespace TypeAtlas

structure SettingsFile where
  path : String
  text : String

def SettingsFile.content (file : SettingsFile) : Except Fault Data :=
  match Yaml.read file.text with
  | .error .malformed =>
    .error (.diagnostic (.parseFailed file.path "the text is not well formed"))
  | .error (.unsuitable message) => .error (.unsuitable message)
  | .ok document => .ok (if document.holds then document else .map [])

structure Sources where
  homes : Homes
  project : Option SettingsFile := none
  shared : Option SettingsFile := none
  environment : Table String String := []
  overrides : Table String Data := []

namespace Sources

def asSections : Data → Except Fault (Table String Data)
  | .map fields => .ok fields
  | .keyed _ => .error .wrongKind
  | _ => .error .absent

def merged (s : Sources) : Except Fault (Table String Data) := do
  let read : Option SettingsFile → Except Fault Data
    | some file => file.content
    | none => .ok (.map [])
  let project ← read s.project
  let shared ← read s.shared
  let files ← if shared.holds then shared.laidOver project else .ok project
  let environment ← Environment.sections s.environment
  asSections (← files.laidOver (.map (Data.mergeFields environment s.overrides)))

end Sources

namespace Settings

def sectionNames : List String := ["logging", "extraction", "libraries", "output"]

def strayKeys (fields : Table String Data) : List Violation :=
  (fields.filter fun (name, _) => !sectionNames.contains name).map fun (name, input) =>
    { rule := .extra, path := [.key name], input }

def ofClosedFields (homes : Homes) (fields : Table String Data) : Checked Settings :=
  match ofFields homes fields, strayKeys fields with
  | .ok settings, [] => .ok settings
  | .ok _, stray => .bad stray
  | .bad violations, stray => .bad (violations ++ stray)

def refusal (v : Violation) : Diagnostic :=
  .invalidValue (".".intercalate (v.path.map Step.text)) v.input v.rule.message

def ofSources (s : Sources) : Except Fault Settings := do
  match (ofClosedFields s.homes (← s.merged)).toExcept with
  | .error (.malformed (first :: _)) => .error (.diagnostic (refusal first))
  | result => result

end Settings

end TypeAtlas
