import TypeAtlas.Fault
import TypeAtlas.Origin
import TypeAtlas.Program.Predicate
import TypeAtlas.Program.Query
import TypeAtlas.Registry

/-!
The state of a walk over a program, and the engine that goes from a type to the types inside it.
-/

namespace TypeAtlas

/-- What a walk has gathered so far. The innermost scope comes first; it collects the names that the
entry under construction declares. -/
structure Walk where
  registry : Registry := {}
  bindings : Bindings := []
  scopes : List (List String) := []
  localNames : Table String (List String) := []
  unidentified : Nat := 0
  events : Array Event := #[]
deriving Inhabited

namespace Walk

def emit (w : Walk) (event : Event) : Walk := { w with events := w.events.push event }

def addName (names : List String) (name : String) : List String :=
  if name ∈ names then names else names ++ [name]

/-- Declares a name in the innermost scope; without a scope it is forgotten. -/
def declareLocal (w : Walk) (name : String) : Walk :=
  match w.scopes with
  | [] => w
  | scope :: outer => { w with scopes := addName scope name :: outer }

def openScope (w : Walk) : Walk := { w with scopes := [] :: w.scopes }

def closeScope (w : Walk) (name : String) : Walk :=
  match w.scopes with
  | [] => w
  | [] :: outer => { w with scopes := outer }
  | declared :: outer =>
    let known := (Table.get? w.localNames name).getD []
    { w with scopes := outer, localNames := Table.put w.localNames name (declared.foldl addName known) }

def set (w : Walk) (name : String) (node : Node) : Walk :=
  { w with registry := w.registry.set name node }.emit (Registry.registered name node)

def reserve (w : Walk) (name : String) : Walk := { w with registry := w.registry.reserve name }

def bind (w : Walk) (home name : String) : String × Walk :=
  let (binding, bindings) := w.bindings.bind home name w.registry.names
  let isNew := !Table.has w.bindings (home, name)
  let after := { w with bindings }
  (binding, if isNew && binding != name then after.emit (bindingRenamed home name binding) else after)

end Walk

/-- A step of a walk. What was gathered before a fault stays gathered. -/
abbrev Extract := ExceptT Fault (StateM Walk)

namespace Extract

def fail {α : Type} (fault : Fault) : Extract α := throw fault

def diagnose {α : Type} (d : Diagnostic) : Extract α := throw (.diagnostic d)

/-- Runs a step in a scope of its own. The scope ends however the step ends. -/
def inScope {α : Type} (name : String) (step : Extract α) : Extract α :=
  fun w =>
    let (result, after) := step w.openScope
    (result, after.closeScope name)

def set (name : String) (node : Node) : Extract Unit := modify (·.set name node)

def reserve (name : String) : Extract Unit := modify (·.reserve name)

def declareLocal (name : String) : Extract Unit := modify (·.declareLocal name)

def emit (event : Event) : Extract Unit := modify (·.emit event)

def isRegistered (name : String) : Extract Bool := do return (← get).registry.has name

def resolve (name : String) (types : List Node := []) (live : Option TypeId := none) :
    Extract (Node.Ref Node) :=
  modifyGet fun w =>
    let (ref, registry) := w.registry.resolve name types live
    (ref, { w with registry })

end Extract

/-- A program under extraction, with the ways to go on: `visit` for a type inside another,
`visitNamed` for a type written by name, `visitInline` for one written out, and the bodies of
entries. -/
structure Engine where
  program : Program
  settings : ExtractionSettings
  libraries : LibrarySettings
  visit : TypeId → Extract Node := fun _ => .fail .tooDeep
  visitNamed : TypeId → Option String → Extract Node := fun _ _ => .fail .tooDeep
  visitInline : TypeId → Extract Node := fun _ => .fail .tooDeep
  bodyOfType : TypeId → Extract Node := fun _ => .fail .tooDeep
  bodyOfAlias : SiteId → Extract Node := fun _ => .fail .tooDeep

namespace Engine

def isAnonymous (e : Engine) (name : String) : Bool :=
  name.isEmpty || e.settings.anonymousStart.toList.isPrefixOf name.toList

def visitPresent (e : Engine) (type : Option TypeId) : Extract Node := do
  e.visit (← present type)

def visitAll (e : Engine) (types : List (Option TypeId)) : Extract (List Node) :=
  types.mapM e.visitPresent

end Engine

end TypeAtlas
