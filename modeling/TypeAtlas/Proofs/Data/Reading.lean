import TypeAtlas.Data.JsonReader
import TypeAtlas.Data.Yaml
import TypeAtlas.Proofs.Data.Merge
import TypeAtlas.Proofs.Steps

/-!
In what is read from JSON or YAML, a map has each name once: of a repeated name the last value counts.
-/

namespace TypeAtlas

namespace Data

theorem plain_of_readMagnitude {negative : Bool} {cs rest : List Char} {value : Data}
    (read : readMagnitude negative cs = some (value, rest)) : value.isMap = false := by
  unfold readMagnitude at read
  grind [isMap]

theorem plain_of_readNumber {cs rest : List Char} {value : Data}
    (read : readNumber cs = some (value, rest)) : value.isMap = false := by
  unfold readNumber at read
  split at read
  · split at read
    · cases read; rfl
    · exact plain_of_readMagnitude read
  · exact plain_of_readMagnitude read

theorem plain_of_readItems {fuel : Nat} {done : List Data} {cs rest : List Char} {value : Data}
    (read : readItems fuel done cs = some (value, rest)) : value.isMap = false := by
  induction fuel generalizing done cs with
  | zero => simp [readItems] at read
  | succ fuel ih =>
      rw [readItems] at read
      obtain ⟨⟨item, after⟩, -, read⟩ := Option.bind_eq_some_iff.mp read
      dsimp only at read
      split at read
      · exact ih read
      · cases read; rfl
      · cases read

theorem plain_of_map {step : Option α} {value : Data} {rest : List Char} {make : α → Data × List Char}
    (read : step.map make = some (value, rest)) (plain : ∀ made, (make made).1.isMap = false) :
    value.isMap = false := by
  obtain ⟨made, -, same⟩ := Option.map_eq_some_iff.mp read
  have flat := plain made
  rwa [same] at flat

theorem distinct_of_readFields {fuel : Nat}
    (values : ∀ k < fuel, ∀ cs value rest, readValue k cs = some (value, rest) → value.Distinct)
    {done : Table String Data} {cs rest : List Char} {value : Data}
    (before : (map done).Distinct) (read : readFields fuel done cs = some (value, rest)) :
    value.Distinct := by
  induction fuel generalizing done cs with
  | zero => simp [readFields] at read
  | succ fuel ih =>
      rw [readFields] at read
      split at read
      · split at read
        · obtain ⟨⟨name, afterName⟩, -, read⟩ := Option.bind_eq_some_iff.mp read
          dsimp only at read
          split at read
          · obtain ⟨⟨held, after⟩, inner, read⟩ := Option.bind_eq_some_iff.mp read
            have more := before.put name (values fuel (Nat.lt_succ_self _) _ _ _ inner)
            dsimp only at read
            split at read
            · exact ih (fun k below => values k (Nat.lt_succ_of_lt below)) more read
            · cases read; exact more
            · cases read
          · cases read
        · cases read
      · cases read

theorem distinct_of_readValue {fuel : Nat} {cs rest : List Char} {value : Data}
    (read : readValue fuel cs = some (value, rest)) : value.Distinct := by
  induction fuel using Nat.strongRecOn generalizing cs rest value with
  | ind fuel ih =>
      cases fuel with
      | zero => simp [readValue] at read
      | succ fuel =>
          have empty : (map []).Distinct := .map List.nodup_nil (by simp [named])
          rw [readValue] at read
          split at read
          · cases read
          · repeat' split at read
            · exact .plain (plain_of_map read fun _ => rfl)
            · cases read; exact .plain rfl
            · exact .plain (plain_of_readItems read)
            · cases read; exact empty
            · exact distinct_of_readFields
                (fun k below _ _ _ read => ih k (Nat.lt_succ_of_lt below) read) empty read
            · exact .plain (plain_of_map read fun _ => rfl)
            · exact .plain (plain_of_map read fun _ => rfl)
            · exact .plain (plain_of_map read fun _ => rfl)
            · exact .plain (plain_of_map read fun _ => rfl)
            · exact .plain (plain_of_map read fun _ => rfl)
            · exact .plain (plain_of_readNumber read)

theorem distinct_of_ofJson? {s : String} {value : Data} (read : ofJson? s = some value) :
    value.Distinct := by
  obtain ⟨⟨held, rest⟩, inner, ended⟩ := Option.bind_eq_some_iff.mp read
  dsimp only at ended
  split at ended
  · cases ended
    exact distinct_of_readValue inner
  · cases ended

end Data

theorem Data.named_ofEntries (entries : List (Data × Data)) :
    (ofEntries entries).named = namedEntries entries := by
  unfold ofEntries
  split <;> rfl

namespace Yaml

open Data

def Singly (entries : List (Data × Data)) : Prop := (map (namedEntries entries)).Distinct

theorem Singly.ofEntries {entries : List (Data × Data)} (singly : Singly entries) :
    (ofEntries entries).Distinct :=
  .map (by rw [named_ofEntries]; exact singly.keys)
    (by rw [named_ofEntries]; exact fun field member => singly.of_mem member)

theorem Singly.putEntry {entries : List (Data × Data)} {value : Data} (key : Data)
    (singly : Singly entries) (distinct : value.Distinct) : Singly (putEntry entries key value) := by
  cases named : key.asText? with
  | none => rwa [Singly, namedEntries_putEntry_of_other _ named]
  | some name =>
      rw [Singly, asText?_eq_some named, namedEntries_putEntry]
      exact singly.put name distinct

theorem plain_of_plainScalar {s : String} {value : Data} (read : plainScalar s = .ok value) :
    value.isMap = false := by
  unfold plainScalar at read
  dsimp only at read
  repeat' split at read
  · cases read; rfl
  · cases read; rfl
  · cases read; rfl
  · cases read
  · cases read; rfl
  · unfold Except.map at read
    split at read <;> cases read
    rfl
  · unfold Moment.data at read
    split at read <;> cases read
    rfl
  · cases read; rfl

theorem plain_of_scalarData {tag : Option String} {text : String} {isPlain : Bool} {value : Data}
    (read : scalarData tag text isPlain = .ok value) : value.isMap = false := by
  unfold scalarData at read
  split at read
  · unfold taggedScalar at read
    split at read
    · exact plain_of_plainScalar read
    · cases read; rfl
    · cases read; rfl
    · obtain ⟨held, -, read⟩ := of_except_bind_ok read
      split at read <;> cases read <;> rfl
  · split at read
    · exact plain_of_plainScalar read
    · cases read; rfl

theorem distinct_of_dataFrom {fuel : Nat} {tree : Tree} {value : Data}
    (read : dataFrom fuel tree = .ok value) : value.Distinct := by
  induction fuel generalizing tree value with
  | zero => simp [dataFrom] at read
  | succ fuel ih =>
      cases tree with
      | scalar tag text isPlain => exact .plain (plain_of_scalarData read)
      | items tag items =>
          rw [dataFrom] at read
          split at read
          · obtain ⟨held, -, read⟩ := of_except_bind_ok read
            cases read
            exact .plain rfl
          · cases read
      | fields tag fields =>
          rw [dataFrom] at read
          split at read
          · obtain ⟨all, -, read⟩ := of_except_bind_ok read
            obtain ⟨entries, filled, read⟩ := of_except_bind_ok read
            cases read
            have start : Singly [] := .map List.nodup_nil nofun
            refine (holds_of_foldlM _ (fun kept field next before ran => ?_) start filled).ofEntries
            obtain ⟨key, -, ran⟩ := of_except_bind_ok ran
            dsimp only at ran
            split at ran
            · cases ran
            · obtain ⟨held, inner, ran⟩ := of_except_bind_ok ran
              cases ran
              exact before.putEntry key (ih inner)
          · cases read

/-- A document has each name once in every map. -/
theorem distinct_of_read {s : String} {value : Data} (found : read s = .ok value) : value.Distinct := by
  unfold read at found
  split at found
  · cases found
  · cases found; exact .plain rfl
  · exact distinct_of_dataFrom found

end Yaml

end TypeAtlas
