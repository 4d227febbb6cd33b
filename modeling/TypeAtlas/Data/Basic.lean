import TypeAtlas.Number.Shortest
import TypeAtlas.Table

/-!
Plain data: what settings, events and serialized nodes are made of.
-/

namespace TypeAtlas

/-- A plain value. The fields of a map stand in order, each name once. -/
inductive Data where
  | null
  | bool (value : Bool)
  | int (value : Int)
  | float (value : Binary64)
  | text (value : String)
  | list (items : List Data)
  | map (fields : List (String × Data))
  /-- A map with keys of other kinds than texts. -/
  | keyed (entries : List (Data × Data))
  /-- A day or a moment: as it is written on its own, and as it is shown within other values. -/
  | moment (written shown : String)
deriving Inhabited

namespace Data

def field? : Data → String → Option Data
  | map fields, name => Table.get? fields name
  | _, _ => none

def asText? : Data → Option String
  | text value => some value
  | _ => none

def asBool? : Data → Option Bool
  | bool value => some value
  | _ => none

def asInt? : Data → Option Int
  | int value => some value
  | _ => none

def asList? : Data → Option (List Data)
  | list items => some items
  | _ => none

def asMap? : Data → Option (Table String Data)
  | map fields => some fields
  | _ => none

/-- Whether a value says something: null, false, zero and everything empty do not. -/
def holds : Data → Bool
  | null => false
  | bool value => value
  | int value => value != 0
  | float value => value.toInt? != some 0
  | text value => !value.isEmpty
  | list items => !items.isEmpty
  | map fields => !fields.isEmpty
  | keyed entries => !entries.isEmpty
  | moment _ _ => true

def texts (items : List String) : Data := list (items.map text)

def ofOption : Option Data → Data
  | some value => value
  | none => null

mutual

def depth : Data → Nat
  | list items => 1 + depthOfItems items
  | map fields => 1 + depthOfFields fields
  | keyed entries => 1 + depthOfEntries entries
  | _ => 1

def depthOfItems : List Data → Nat
  | [] => 0
  | item :: rest => max (depth item) (depthOfItems rest)

def depthOfFields : List (String × Data) → Nat
  | [] => 0
  | (_, value) :: rest => max (depth value) (depthOfFields rest)

def depthOfEntries : List (Data × Data) → Nat
  | [] => 0
  | (key, value) :: rest => max (max (depth key) (depth value)) (depthOfEntries rest)

end

mutual

def same : Data → Data → Bool
  | null, null => true
  | bool a, bool b => a == b
  | int a, int b => a == b
  | float a, float b => a == b
  | text a, text b => a == b
  | list as, list bs => sameItems as bs
  | map as, map bs => sameFields as bs
  | keyed as, keyed bs => sameEntries as bs
  | moment a _, moment b _ => a == b
  | _, _ => false

def sameItems : List Data → List Data → Bool
  | [], [] => true
  | a :: as, b :: bs => same a b && sameItems as bs
  | _, _ => false

def sameFields : List (String × Data) → List (String × Data) → Bool
  | [], [] => true
  | (name, a) :: as, (name', b) :: bs => name == name' && same a b && sameFields as bs
  | _, _ => false

def sameEntries : List (Data × Data) → List (Data × Data) → Bool
  | [], [] => true
  | (key, a) :: as, (key', b) :: bs => same key key' && same a b && sameEntries as bs
  | _, _ => false

end

end Data

end TypeAtlas
