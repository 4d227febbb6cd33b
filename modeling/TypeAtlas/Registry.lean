import TypeAtlas.Log.Event
import TypeAtlas.Node.Written

/-!
The registry of a run: entries by name. A named type is registered before its body is built, so that
a request for the same name meanwhile finds a placeholder and stops there.
-/

namespace TypeAtlas

structure Registry where
  entries : Table String Node := []
  placeholders : List String := []
deriving Inhabited

namespace Registry

def names (r : Registry) : List String := Table.keys r.entries

def has (r : Registry) (name : String) : Bool := Table.has r.entries name

def get? (r : Registry) (name : String) : Option Node := Table.get? r.entries name

def isPlaceholder (r : Registry) (name : String) : Bool := name ∈ r.placeholders

def set (r : Registry) (name : String) (node : Node) : Registry :=
  { entries := Table.put r.entries name node
    placeholders := r.placeholders.filter (· ≠ name) }

def registered (name : String) (node : Node) : Event :=
  { level := .debug, name := "ref_registered"
    details := [("name", .text name), ("kind", .text node.kind)] }

/-- What stands in for an entry whose body is not there yet: a reference to itself. -/
def placeholder (name : String) : Node := .ref { name }

def reserve (r : Registry) (name : String) : Registry :=
  if r.has name then r
  else
    { entries := Table.put r.entries name (placeholder name)
      placeholders := name :: r.placeholders }

def resolve (r : Registry) (name : String) (types : List Node := [])
    (live : Option TypeId := none) : Node.Ref Node × Registry :=
  ({ name, types, live }, r.reserve name)

def unfilled (r : Registry) : List String := r.names.filter r.isPlaceholder

/-- The number of type parameters that an entry declares; nothing when that is not known. -/
def parameterCount? (r : Registry) (name : String) : Option Nat :=
  if r.isPlaceholder name then none
  else
    match r.get? name with
    | some (.aliasOf types _ _) => some types.length
    | some (.interface shape) => some shape.types.length
    | some (.classShape shape _) => some shape.types.length
    | some (.function callable) => some callable.types.length
    | some (.construct callable) => some callable.types.length
    | _ => none

end Registry

end TypeAtlas
