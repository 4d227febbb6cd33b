import Std.Time.Format
import TypeAtlas.Command.Target
import TypeAtlas.Command.Run

/-!
The command line. A module of programs is a JSON file: `package/name.json`, in the project or in the
current folder, holds the subjects of the module `package.name`.
-/

namespace TypeAtlas.Main

def readText? (path : String) : IO (Option String) := do
  try return some (← IO.FS.readFile path)
  catch _ => return none

def isFolder (path : String) : IO Bool := (System.mkFilePath [path]).isDir

def candidates (arguments : List String) : List String :=
  arguments ++ arguments.filterMap fun argument =>
    match argument.splitOn "=" with
    | _ :: first :: rest => some ("=".intercalate (first :: rest))
    | _ => none

def variableNames : List String :=
  Environment.outlines.flatMap fun o =>
    (o.variableName :: (o.single ++ o.nested).map fun key => o.variableName ++ "__" ++ key).map
      String.toUpper

def environment : IO (Table String String) := do
  let found ← variableNames.mapM fun name => do
    return (← IO.getEnv name).map fun value => (name, value)
  return found.filterMap id

def moduleOf? (folders : List String) (target : String) :
    IO (Option (String × Table String Command.Subject)) := do
  let name := (target.splitOn ":").headD ""
  let segments := name.splitOn "."
  for folder in folders do
    let path := Disk.below folder (segments.dropLast ++ [segments.getLastD "" ++ ".json"])
    match ((← readText? path).bind Data.ofJson?).bind Data.asMap? with
    | some described => return some (name, Command.subjectsOf described)
    | none => pure ()
  return none

def ways (paths : List String) : List String :=
  dedup (paths.flatMap fun text =>
    let path := Text.FilePath.parse text
    (List.range (path.segments.length + 1)).map fun n =>
      Text.FilePath.text { path with segments := path.segments.take n })

def hostFor (arguments : List String) : IO Command.Host := do
  let home := (← IO.getEnv "HOME").getD "/"
  let sharedSettings := Disk.below home [".config", "typegraph", "config.yaml"]
  let folders ← (ways (candidates arguments ++ ["."])).filterM isFolder
  let settings := folders.map fun folder => Disk.below folder [".typegraph", "config.yaml"]
  let files ← (sharedSettings :: settings ++ candidates arguments).filterMapM fun path => do
    return (← readText? path).map fun text => (Disk.placeOf path, text)
  let catalogue ← (arguments.filter (·.contains ':')).filterMapM (moduleOf? folders)
  let run := (← IO.getRandomBytes 6).toList.flatMap fun byte => Text.hex 2 byte.toNat
  let now := Std.Time.DateTime.ofTimestamp (← Std.Time.Timestamp.now) Std.Time.TimeZone.ZoneRules.UTC
  return { homes := { own := home }, sharedSettings
           disk := { files, folders := folders.map Disk.placeOf }
           environment := ← environment, catalogue
           time := now.toPlainDateTime.format "uuuu-MM-dd HH:mm:ss"
           run := String.ofList run }

def parent (path : String) : String := (Text.FilePath.parse path).parent.text

def perform : Effect → IO Unit
  | .print text => IO.print text
  | .report text => IO.eprint text
  | .append path text => do
    IO.FS.createDirAll (parent path)
    IO.FS.withFile path .append fun file => file.putStr text
  | .replace path text => do
    IO.FS.createDirAll (parent path)
    IO.FS.writeFile path text

/-- Runs the command once to see how long it takes, and once more to report it. -/
def timed (host : Command.Host) (arguments : List String) : IO Command.Outcome := do
  let before ← IO.monoMsNow
  let first := Command.run host arguments
  let exit ← IO.lazyPure fun _ => first.exit
  let after ← IO.monoMsNow
  if exit != 0 then return first
  let elapsed := Data.float (.ofDecimal false (after - before) 0)
  return Command.run { host with elapsed } arguments

end TypeAtlas.Main

def main (arguments : List String) : IO UInt32 := do
  let outcome ← TypeAtlas.Main.timed (← TypeAtlas.Main.hostFor arguments) arguments
  outcome.effects.forM TypeAtlas.Main.perform
  return outcome.exit.toUInt32
