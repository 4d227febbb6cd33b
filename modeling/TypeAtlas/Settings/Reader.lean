import TypeAtlas.Data.Merge
import TypeAtlas.Data.Reading
import TypeAtlas.Settings.Basic
import TypeAtlas.Text.FilePath

/-!
Settings from plain data and back.
-/

namespace TypeAtlas

open Read

def Read.part {α : Type} (name : String) (read : Table String Data → Checked α) :
    Data → Checked α
  | .map fields => read fields
  | .keyed entries => read (Data.namedEntries entries)
  | input => .fail (.model name) input

def Read.level : Data → Checked Level :=
  oneOf Level.ofLabel? "'DEBUG', 'INFO', 'WARNING', 'ERROR' or 'CRITICAL'"

namespace LogOutput

def readDestination (homes : Homes) (input : Data) : Checked String :=
  (text input).andThen fun destination =>
    if destination == "stderr" || destination == "stdout" then .ok destination
    else
      match (Text.FilePath.parse destination).expandHome? homes with
      | none => .fail .homeless input
      | some path =>
        if path.isAbsolute then .ok path.text
        else .fail (.check ("File destination must be absolute path: " ++ destination)) input

def ofFields (homes : Homes) (fields : Table String Data) : Checked LogOutput :=
  (fun format destination level => { format, destination, level }) <$>
    optional fields "format" .console (oneOf LogFormat.ofText? "'json' or 'console'") <*>
    optional fields "destination" "stderr" (readDestination homes) <*>
    optional fields "level" none (nullable Read.level)

def toData (o : LogOutput) : Data :=
  .map [("format", .text o.format.text), ("destination", .text o.destination),
    ("level", .ofOption (o.level.map fun level => .text level.label))]

end LogOutput

namespace LoggingSettings

def ofFields (homes : Homes) (fields : Table String Data) : Checked LoggingSettings :=
  (fun level outputs => { level, outputs }) <$>
    optional fields "level" .warning Read.level <*>
    optional fields "outputs" [{}]
      (list (part "LogOutputConfig" (LogOutput.ofFields homes)))

def toData (s : LoggingSettings) : Data :=
  .map [("level", .text s.level.label), ("outputs", .list (s.outputs.map LogOutput.toData))]

end LoggingSettings

namespace ExtractionSettings

def readHops (input : Data) : Checked Nat :=
  (int input).andThen fun hops =>
    if hops < 0 then
      .fail (.check ("hidden_anonymous_max_hops must be >= 0, got " ++ toString hops)) input
    else .ok hops.toNat

def ofFields (fields : Table String Data) : Checked ExtractionSettings :=
  (fun isolateRoots strictRefs maxHops anonymousStart =>
      { isolateRoots, strictRefs, maxHops, anonymousStart }) <$>
    optional fields "isolate_roots" false bool <*>
    optional fields "strict_refs" false bool <*>
    optional fields "hidden_anonymous_max_hops" 3 readHops <*>
    optional fields "anonymous_prefix" "__" text

def toData (s : ExtractionSettings) : Data :=
  .map [("isolate_roots", .bool s.isolateRoots), ("strict_refs", .bool s.strictRefs),
    ("hidden_anonymous_max_hops", .int s.maxHops), ("anonymous_prefix", .text s.anonymousStart)]

end ExtractionSettings

namespace LibrarySettings

def readModule (key patterns : Data) : Checked (String × List String) :=
  let read (name : String) : Checked (String × List String) :=
    Prod.mk <$> ((text key).under (.key "[key]")).under (.key name) <*>
      (list text patterns).under (.key name)
  read key.keyText

def readModules : Data → Checked (Table String (List String))
  | .map fields => Checked.inOrder (fields.map fun (name, patterns) => readModule (.text name) patterns)
  | .keyed entries => Checked.inOrder (entries.map fun (key, patterns) => readModule key patterns)
  | input => .fail .mapping input

def ofFields (fields : Table String Data) : Checked LibrarySettings :=
  let builtIn : LibrarySettings := {}
  (fun basePatterns globalPatterns modules => { basePatterns, globalPatterns, modules }) <$>
    optional fields "base_lib_patterns" builtIn.basePatterns (list text) <*>
    optional fields "global_patterns" builtIn.globalPatterns (list text) <*>
    optional fields "modules" [] readModules

def toData (s : LibrarySettings) : Data :=
  .map [("base_lib_patterns", .texts s.basePatterns), ("global_patterns", .texts s.globalPatterns),
    ("modules", .map (s.modules.map fun (name, patterns) => (name, .texts patterns)))]

end LibrarySettings

namespace OutputSettings

def ofFields (fields : Table String Data) : Checked OutputSettings :=
  (fun indent includePropIds => { indent, includePropIds }) <$>
    optional fields "indent" (some 2) (nullable int) <*>
    optional fields "include_prop_ids" true bool

def toData (s : OutputSettings) : Data :=
  .map [("indent", .ofOption (s.indent.map .int)), ("include_prop_ids", .bool s.includePropIds)]

end OutputSettings

namespace Settings

def ofFields (homes : Homes) (fields : Table String Data) : Checked Settings :=
  (fun logging extraction libraries output => { logging, extraction, libraries, output }) <$>
    optional fields "logging" {} (part "LoggingConfig" (LoggingSettings.ofFields homes)) <*>
    optional fields "extraction" {} (part "ExtractionConfig" ExtractionSettings.ofFields) <*>
    optional fields "libraries" {} (part "LibrariesConfig" LibrarySettings.ofFields) <*>
    optional fields "output" {} (part "OutputConfig" OutputSettings.ofFields)

def ofData (homes : Homes) (input : Data) : Checked Settings :=
  part "TypeGraphConfig" (ofFields homes) input

def toData (s : Settings) : Data :=
  .map [("logging", s.logging.toData), ("extraction", s.extraction.toData),
    ("libraries", s.libraries.toData), ("output", s.output.toData)]

end Settings

end TypeAtlas
