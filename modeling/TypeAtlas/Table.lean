/-!
Tables kept in order: pairs of a key and a value, each key once, at the place of its first insertion.
-/

namespace TypeAtlas

abbrev Table (κ β : Type) := List (κ × β)

namespace Table

variable {κ β : Type} [DecidableEq κ]

def get? : Table κ β → κ → Option β
  | [], _ => none
  | (key, value) :: rest, wanted => if key = wanted then some value else get? rest wanted

/-- Replaces the value in place when the key is present, and appends the pair otherwise. -/
def put : Table κ β → κ → β → Table κ β
  | [], key, value => [(key, value)]
  | (key, value) :: rest, newKey, newValue =>
    if key = newKey then (key, newValue) :: rest else (key, value) :: put rest newKey newValue

def keys (table : Table κ β) : List κ := table.map Prod.fst

def has (table : Table κ β) (key : κ) : Bool := (get? table key).isSome

def ofPairs (pairs : List (κ × β)) : Table κ β :=
  pairs.foldl (fun table pair => put table pair.1 pair.2) []

@[simp] theorem get?_put_self (table : Table κ β) (key : κ) (value : β) :
    get? (put table key value) key = some value := by
  induction table with
  | nil => simp [put, get?]
  | cons entry rest ih =>
      by_cases same : entry.1 = key
      · simp [put, get?, same]
      · simp [put, get?, same, ih]

theorem get?_put_of_ne (table : Table κ β) {key other : κ} (value : β) (distinct : key ≠ other) :
    get? (put table key value) other = get? table other := by
  induction table with
  | nil => simp [put, get?, distinct]
  | cons entry rest ih =>
      by_cases same : entry.1 = key
      · subst same
        simp [put, get?, distinct]
      · simp [put, get?, same, ih]

theorem get?_eq_none_iff (table : Table κ β) (key : κ) :
    get? table key = none ↔ key ∉ keys table := by
  induction table with
  | nil => simp [get?, keys]
  | cons entry rest ih =>
      by_cases same : entry.1 = key
      · simp [get?, keys, same]
      · simp only [keys] at ih
        simp [get?, keys, same, ih, Ne.symm same]

theorem has_iff (table : Table κ β) (key : κ) : has table key = true ↔ key ∈ keys table := by
  rw [has, Option.isSome_iff_ne_none, ne_eq, get?_eq_none_iff, Classical.not_not]

theorem keys_put (table : Table κ β) (key : κ) (value : β) :
    keys (put table key value) =
      if key ∈ keys table then keys table else keys table ++ [key] := by
  induction table with
  | nil => simp [put, keys]
  | cons entry rest ih =>
      by_cases same : entry.1 = key
      · simp [put, keys, same]
      · simp only [keys] at ih
        simp only [put, same, if_false, keys, List.map_cons, ih, List.mem_cons, Ne.symm same,
          false_or]
        by_cases member : key ∈ rest.map Prod.fst <;> simp [member]

end Table

end TypeAtlas
