import TypeAtlas.Log.Event

/-!
Settings of a run, section by section, with their built-in values.
-/

namespace TypeAtlas

inductive LogFormat where
  | json
  | console
deriving DecidableEq, Repr, Inhabited

def LogFormat.text : LogFormat → String
  | json => "json"
  | console => "console"

def LogFormat.ofText? (s : String) : Option LogFormat :=
  [LogFormat.json, .console].find? (·.text == s)

/-- Where events go: standard error, standard output or a file. A level of its own keeps out what
is below it. -/
structure LogOutput where
  format : LogFormat := .console
  destination : String := "stderr"
  level : Option Level := none
deriving Repr, Inhabited

structure LoggingSettings where
  level : Level := .warning
  outputs : List LogOutput := [{}]
deriving Repr, Inhabited

structure ExtractionSettings where
  /-- A failed export is reported and the others are kept. -/
  isolateRoots : Bool := false
  /-- A name without an entry fails the run. -/
  strictRefs : Bool := false
  /-- How far out the named home of an anonymous library type is looked for. -/
  maxHops : Nat := 3
  /-- How the names of synthesized symbols start. -/
  anonymousStart : String := "__"
deriving Repr, Inhabited

/-- Which files are not part of the program: patterns for the base library, for global declarations
and for each importable module. -/
structure LibrarySettings where
  basePatterns : List String := ["*/typescript/lib/lib.*.d.ts", "lib.*.d.ts"]
  globalPatterns : List String := ["*/@types/node/globals.d.ts"]
  modules : Table String (List String) := []
deriving Repr, Inhabited

structure OutputSettings where
  indent : Option Int := some 2
  includePropIds : Bool := true
deriving Repr, Inhabited

structure Settings where
  logging : LoggingSettings := {}
  extraction : ExtractionSettings := {}
  libraries : LibrarySettings := {}
  output : OutputSettings := {}
deriving Repr, Inhabited

end TypeAtlas
