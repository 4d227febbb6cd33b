import TypeAtlas.Fault

/-!
Deep merging of maps: key by key, maps into maps, and everything else replaced.
-/

namespace TypeAtlas.Data

def keyNumber? : Data → Option Int
  | bool value => some (if value then 1 else 0)
  | int value => some value
  | float value => value.toInt?
  | _ => none

def sameKey (a b : Data) : Bool :=
  match keyNumber? a, keyNumber? b with
  | some m, some n => m == n
  | none, none => same a b
  | _, _ => false

def valueAt? (entries : List (Data × Data)) (key : Data) : Option Data :=
  (entries.find? fun entry => sameKey entry.1 key).map (·.2)

def putEntry : List (Data × Data) → Data → Data → List (Data × Data)
  | [], key, value => [(key, value)]
  | (held, old) :: rest, key, value =>
    if sameKey held key then (held, value) :: rest else (held, old) :: putEntry rest key value

def entriesOf (fields : List (String × Data)) : List (Data × Data) :=
  fields.map fun (name, value) => (text name, value)

def namedEntries (entries : List (Data × Data)) : List (String × Data) :=
  entries.filterMap fun (key, value) => key.asText?.map fun name => (name, value)

/-- A map by its entries; one with nothing but texts for keys is a plain one. -/
def ofEntries (entries : List (Data × Data)) : Data :=
  if entries.all fun (key, _) => key.asText?.isSome then map (namedEntries entries)
  else keyed entries

mutual

def mergeFields (base : Table String Data) : List (String × Data) → Table String Data
  | [] => base
  | (key, value) :: rest =>
    mergeFields (Table.put base key (mergeValue (Table.get? base key) value)) rest

def mergeEntries (base : List (Data × Data)) : List (Data × Data) → List (Data × Data)
  | [] => base
  | (key, value) :: rest =>
    mergeEntries (putEntry base key (mergeValue (valueAt? base key) value)) rest

def mergeNamed (base : List (Data × Data)) : List (String × Data) → List (Data × Data)
  | [] => base
  | (key, value) :: rest =>
    mergeNamed (putEntry base (text key) (mergeValue (valueAt? base (text key)) value)) rest

def mergeValue (old : Option Data) : Data → Data
  | map fields =>
    match old with
    | some (map held) => map (mergeFields held fields)
    | some (keyed held) => keyed (mergeNamed held fields)
    | _ => map fields
  | keyed entries =>
    match old with
    | some (map held) => keyed (mergeEntries (entriesOf held) entries)
    | some (keyed held) => keyed (mergeEntries held entries)
    | _ => keyed entries
  | value => value

end

def isMap : Data → Bool
  | map _ => true
  | keyed _ => true
  | _ => false

/-- A value laid over another one, both of which should be maps. A list can only be laid under what
is empty. -/
def laidOver (base upper : Data) : Except Fault Data :=
  match base, upper with
  | list items, map [] => .ok (list items)
  | list _, _ => .error (if upper.isMap then .wrongKind else .absent)
  | _, _ => if base.isMap && upper.isMap then .ok (mergeValue (some base) upper) else .error .absent

end TypeAtlas.Data
