import TypeAtlas.Data.Json
import TypeAtlas.Node.Written

/-!
Graphs: the entries of a finished run with the names that each declares for itself.
-/

namespace TypeAtlas

/-- Entries in the order in which they were first asked for. `localNames` has the type parameters,
mapped keys and inferred variables that belong to each entry. -/
structure Graph where
  entries : Table String Node := []
  localNames : Table String (List String) := []
deriving Inhabited

def dedup {α : Type} [DecidableEq α] (items : List α) : List α :=
  items.foldl (fun kept item => if item ∈ kept then kept else kept ++ [item]) []

mutual

def dropPropIds : Data → Data
  | .map fields =>
    let isProp := match Table.get? fields "kind" with
      | some (.text kind) => kind == "prop"
      | _ => false
    .map (dropPropIdsFields isProp fields)
  | .list items => .list (dropPropIdsItems items)
  | value => value

def dropPropIdsItems : List Data → List Data
  | [] => []
  | item :: rest => dropPropIds item :: dropPropIdsItems rest

def dropPropIdsFields (isProp : Bool) : List (String × Data) → List (String × Data)
  | [] => []
  | (name, value) :: rest =>
    if isProp && name == "id" then dropPropIdsFields isProp rest
    else (name, dropPropIds value) :: dropPropIdsFields isProp rest

end

namespace Graph

def size (g : Graph) : Nat := g.entries.length

def names (g : Graph) : List String := Table.keys g.entries

def describe (g : Graph) : String := "TypeGraph(" ++ toString g.size ++ " entries)"

def toData (g : Graph) (includePropIds : Bool := true) : Table String Data :=
  g.entries.map fun (name, node) =>
    (name, if includePropIds then node.toData else dropPropIds node.toData)

def toJson (g : Graph) (indent : Option Int) (includePropIds : Bool := true) : String :=
  Data.json { indent := indent.map Int.toNat } (.map (g.toData includePropIds))

/-- The references of an entry that lead nowhere: neither to an entry nor to a name of its own. -/
def danglingIn (g : Graph) (name : String) (node : Node) : List String :=
  let own := (Table.get? g.localNames name).getD []
  (node.refs.map (·.name)).filter fun ref => !Table.has g.entries ref && !own.contains ref

/-- Names that are referred to and have no entry, in order of first occurrence. -/
def dangling (g : Graph) : List String :=
  dedup (g.entries.flatMap fun (name, node) => g.danglingIn name node)

end Graph

end TypeAtlas
