import TypeAtlas.Command.Arguments

/-!
Usage of the commands: their options, their help, and how a mistake in the arguments is reported.
-/

namespace TypeAtlas.Command

inductive Page where
  | group
  | extract
  | overview
deriving DecidableEq, Repr, Inhabited

namespace Page

def name : Page → String
  | group => "typegraph"
  | extract => "typegraph extract"
  | overview => "typegraph show"

def synopsis : Page → String
  | group => "[OPTIONS] COMMAND [ARGS]..."
  | extract => "[OPTIONS] TARGET"
  | overview => "[OPTIONS] TARGET"

def options : Page → List OptionForm
  | group => [⟨["--version"], false⟩, ⟨["-v", "--verbose"], false⟩, ⟨["--help"], false⟩]
  | extract =>
    [⟨["-o", "--output"], true⟩, ⟨["--project"], true⟩, ⟨["--strict"], false⟩,
     ⟨["--isolate"], false⟩, ⟨["--help"], false⟩]
  | overview => [⟨["--project"], true⟩, ⟨["--help"], false⟩]

def usage (page : Page) : String := "Usage: " ++ page.name ++ " " ++ page.synopsis ++ "\n"

def targetNote : String :=
  "  TARGET is 'package.module:callable'; the callable returns the OracleProgram to\n" ++
  "  extract.\n"

def projectNote : String :=
  "  --project DIRECTORY  Project root holding .typegraph/config.yaml (default:\n" ++
  "                       current directory)\n"

def helpNote : String := "  --help               Show this message and exit.\n"

def help : Page → String
  | group =>
    usage group ++ "\n" ++
    "  TypeGraph - normalized type graphs from a type-checking oracle.\n\n" ++
    "Options:\n" ++
    "  --version      Show the version and exit.\n" ++
    "  -v, --verbose  Enable debug logging\n" ++
    "  --help         Show this message and exit.\n\n" ++
    "Commands:\n" ++
    "  extract  Extract the type graph of a program.\n" ++
    "  show     Show the root entries of a program's type graph.\n"
  | extract =>
    usage extract ++ "\n  Extract the type graph of a program.\n\n" ++ targetNote ++
    "\nOptions:\n" ++
    "  -o, --output FILE    Write JSON here instead of stdout\n" ++ projectNote ++
    "  --strict             Fail when references are left dangling\n" ++
    "  --isolate            Keep going when one export fails\n" ++ helpNote
  | overview =>
    usage overview ++ "\n  Show the root entries of a program's type graph.\n\n" ++ targetNote ++
    "\nOptions:\n" ++ projectNote ++ helpNote

def refusal (page : Page) (error : UsageError) : String :=
  let start := page.usage ++ "Try '" ++ page.name ++ " --help' for help.\n\n"
  (if error.isBrief then "" else start) ++ "Error: " ++ error.message ++ "\n"

def versionNote : String := "typegraph, version 0.1.0\n"

end Page

end TypeAtlas.Command
