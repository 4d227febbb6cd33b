import Mathlib.Data.List.Nodup
import Mathlib.Data.List.Perm.Subperm
import TypeAtlas.Origin
import TypeAtlas.Table

/-!
A new binding is a name that nothing else goes by: among one more candidates than names in use there
is a free one.
-/

namespace TypeAtlas.Bindings

theorem candidate_injective (name : String) : Function.Injective (candidate name) := by
  have longer (n : Nat) : candidate name (n + 1) ≠ candidate name 0 := by
    intro same
    have length := congrArg String.length same
    simp only [candidate, String.length_append] at length
    have separator : "_".length = 1 := rfl
    omega
  intro m n same
  cases m with
  | zero =>
      cases n with
      | zero => rfl
      | succ n => exact absurd same.symm (longer n)
  | succ m =>
      cases n with
      | zero => exact absurd same (longer m)
      | succ n =>
          have digits := (String.append_right_inj _).mp same
          have value := congrArg (fun text => Nat.ofDigitChars 10 text.toList 0) digits
          simpa [Nat.toString_eq_ofList_toDigits] using value

theorem mem_of_freeFrom {used : List String} {name : String} {fuel n : Nat}
    (found : freeFrom used name fuel n ∈ used) {i : Nat} (tried : i ≤ fuel) :
    candidate name (n + i) ∈ used := by
  induction fuel generalizing n i with
  | zero =>
      obtain rfl : i = 0 := by omega
      exact found
  | succ fuel ih =>
      unfold freeFrom at found
      split at found
      · rename_i taken
        cases i with
        | zero => exact taken
        | succ i =>
            have later := ih found (i := i) (by omega)
            rwa [show n + 1 + i = n + (i + 1) by omega] at later
      · rename_i free
        exact absurd found free

theorem firstFree_eq_candidate (used : List String) (name : String) :
    ∃ n, firstFree used name = candidate name n := by
  have tried (fuel n : Nat) : ∃ m, freeFrom used name fuel n = candidate name m := by
    induction fuel generalizing n with
    | zero => exact ⟨n, rfl⟩
    | succ fuel ih =>
        unfold freeFrom
        split
        · exact ih (n + 1)
        · exact ⟨n, rfl⟩
  exact tried used.length 0

theorem firstFree_not_mem (used : List String) (name : String) : firstFree used name ∉ used := by
  intro found
  have taken : (List.range (used.length + 1)).map (candidate name) ⊆ used := by
    intro other member
    obtain ⟨i, below, rfl⟩ := List.mem_map.mp member
    have tried := mem_of_freeFrom found (i := i) (by simpa [Nat.lt_succ_iff] using below)
    simpa using tried
  have distinct := (List.nodup_range (n := used.length + 1)).map (candidate_injective name)
  have count := (distinct.subperm taken).length_le
  rw [List.length_map, List.length_range] at count
  omega

variable {bindings : Bindings} {home name : String} (taken : List String)

theorem bind_of_bound {binding : String} (bound : Table.get? bindings (home, name) = some binding) :
    bindings.bind home name taken = (binding, bindings) := by
  rw [bind, bound]

theorem bind_of_unbound (unbound : Table.get? bindings (home, name) = none) :
    bindings.bind home name taken =
      (firstFree (bindings.owned ++ taken) name,
        Table.put bindings (home, name) (firstFree (bindings.owned ++ taken) name)) := by
  rw [bind, unbound]

theorem bind_fresh (unbound : Table.get? bindings (home, name) = none) :
    (bindings.bind home name taken).1 ∉ taken ∧
      (bindings.bind home name taken).1 ∉ bindings.owned := by
  rw [bind_of_unbound taken unbound]
  have free := firstFree_not_mem (bindings.owned ++ taken) name
  exact ⟨fun member => free (List.mem_append_right _ member),
    fun member => free (List.mem_append_left _ member)⟩

theorem get?_bind_self :
    Table.get? (bindings.bind home name taken).2 (home, name) =
      some (bindings.bind home name taken).1 := by
  cases held : Table.get? bindings (home, name) with
  | none => rw [bind_of_unbound taken held, Table.get?_put_self]
  | some binding => rw [bind_of_bound taken held, held]

theorem get?_bind_of_ne {key : String × String} (distinct : (home, name) ≠ key) :
    Table.get? (bindings.bind home name taken).2 key = Table.get? bindings key := by
  cases held : Table.get? bindings (home, name) with
  | none => rw [bind_of_unbound taken held, Table.get?_put_of_ne _ _ distinct]
  | some binding => rw [bind_of_bound taken held]

end TypeAtlas.Bindings
