import Mathlib.Algebra.Group.Nat.Defs
import TypeAtlas.Number.Shortest

/-!
Numbers of equal value: one is the other, or both are zeros, and so they are equal to the same
integer if they are equal to any.
-/

namespace TypeAtlas.Binary64

theorem exponentField_eq (x : Binary64) : x.exponentField = x.bits.toNat / 2 ^ 52 % 2 ^ 11 := by
  rw [exponentField, UInt64.toNat_and, UInt64.toNat_shiftRight,
    show UInt64.toNat 0x7ff = 2 ^ 11 - 1 from rfl, Nat.and_two_pow_sub_one_eq_mod,
    Nat.shiftRight_eq_div_pow]
  rfl

theorem fractionField_eq (x : Binary64) : x.fractionField = x.bits.toNat % 2 ^ 52 := by
  rw [fractionField, UInt64.toNat_and, show UInt64.toNat 0xfffffffffffff = 2 ^ 52 - 1 from rfl,
    Nat.and_two_pow_sub_one_eq_mod]

theorem negative_iff (x : Binary64) : x.negative = true ↔ x.bits.toNat / 2 ^ 63 = 1 := by
  rw [negative, beq_iff_eq, ← UInt64.toNat_inj, UInt64.toNat_shiftRight, Nat.shiftRight_eq_div_pow]
  rfl

theorem fractionField_lt (x : Binary64) : x.fractionField < 2 ^ 52 := by
  rw [fractionField_eq]
  exact Nat.mod_lt _ (by decide)

theorem ext_fields {x y : Binary64} (sign : x.negative = y.negative)
    (exponent : x.exponentField = y.exponentField) (fraction : x.fractionField = y.fractionField) :
    x = y := by
  have signs : x.bits.toNat / 2 ^ 63 = 1 ↔ y.bits.toNat / 2 ^ 63 = 1 := by
    rw [← negative_iff, ← negative_iff, sign]
  rw [exponentField_eq, exponentField_eq] at exponent
  rw [fractionField_eq, fractionField_eq] at fraction
  have below := x.bits.toNat_lt
  have below' := y.bits.toNat_lt
  have same : x.bits.toNat = y.bits.toNat := by omega
  cases x
  cases y
  exact congrArg mk (UInt64.toNat_inj.mp same)

@[irreducible]
def places : Nat := 1074

theorem le_places : 52 ≤ places := by
  unfold places
  decide

def doublings (x : Binary64) : Nat := x.exponentField - 1

theorem scale_eq (x : Binary64) : x.scale = (x.doublings : Int) - places := by
  rw [scale, doublings, places]
  split <;> omega

theorem of_toInt? {x : Binary64} {n : Int} (whole : x.toInt? = some n) :
    n.natAbs * 2 ^ places = x.mantissa * 2 ^ x.doublings ∧
      (n ≠ 0 → (x.negative = true ↔ n < 0)) := by
  rw [toInt?] at whole
  split at whole
  · cases whole
  obtain ⟨_, sizes, signed⟩ := Option.map_eq_some_iff.mp whole
  obtain ⟨magnitude, found, same⟩ := Option.bind_eq_some_iff.mp sizes
  cases same
  have sized : n.natAbs = magnitude ∧ (n ≠ 0 → (x.negative = true ↔ n < 0)) := by
    cases negative : x.negative <;> rw [negative] at signed
    · rw [if_neg Bool.false_ne_true] at signed
      simp only [Bool.false_eq_true, false_iff]
      omega
    · rw [if_pos rfl] at signed
      simp only [true_iff]
      omega
  refine ⟨?_, sized.2⟩
  rw [sized.1]
  cases scale : x.scale with
  | ofNat up =>
      rw [scale] at found
      have scaled : (up : Int) = x.doublings - places := scale.symm.trans x.scale_eq
      obtain rfl : x.mantissa * Nat.pow 2 up = magnitude := Option.some.inj found
      have doubled : x.doublings = up + places := by omega
      rw [doubled, Nat.pow_add, ← Nat.mul_assoc]
      rfl
  | negSucc down =>
      rw [scale] at found
      have scaled : Int.negSucc down = x.doublings - places := scale.symm.trans x.scale_eq
      have doubled : places = (down + 1) + x.doublings := by omega
      dsimp only at found
      split at found
      · rename_i whole
        obtain rfl : x.mantissa / Nat.pow 2 (down + 1) = magnitude := Option.some.inj found
        rw [doubled, Nat.pow_add, ← Nat.mul_assoc]
        exact congrArg (· * _) (Nat.div_mul_cancel (Nat.dvd_of_mod_eq_zero whole))
      · cases found

theorem mantissa_lt (x : Binary64) : x.mantissa < 2 ^ 53 := by
  have fraction := x.fractionField_lt
  rw [mantissa]
  split
  · exact Nat.lt_trans fraction (by decide)
  · exact Nat.add_lt_add_right fraction (2 ^ 52)

theorem eq_of_doubled {m m' k k' : Nat} (least : 2 ^ 52 ≤ m) (least' : 2 ^ 52 ≤ m')
    (below : m < 2 ^ 53) (below' : m' < 2 ^ 53) (same : m * 2 ^ k = m' * 2 ^ k') :
    m = m' ∧ k = k' := by
  have later {m m' k k' : Nat} (least' : 2 ^ 52 ≤ m') (below : m < 2 ^ 53)
      (same : m * 2 ^ k = m' * 2 ^ k') : k' ≤ k := by
    apply Nat.le_of_not_lt
    intro fewer
    have smaller : m * 2 ^ k < m' * 2 ^ k' :=
      calc m * 2 ^ k < 2 ^ 53 * 2 ^ k := Nat.mul_lt_mul_of_pos_right below (Nat.two_pow_pos k)
        _ = 2 ^ 52 * 2 ^ (k + 1) := by rw [← Nat.pow_add, ← Nat.pow_add, Nat.add_comm k, ← Nat.add_assoc]
        _ ≤ 2 ^ 52 * 2 ^ k' := Nat.mul_le_mul_left _ (Nat.pow_le_pow_right (by decide) fewer)
        _ ≤ m' * 2 ^ k' := Nat.mul_le_mul_right _ least'
    exact Nat.lt_irrefl _ (same ▸ smaller)
  have equal : k = k' := Nat.le_antisymm (later least below' same.symm) (later least' below same)
  subst equal
  exact ⟨Nat.eq_of_mul_eq_mul_right (Nat.two_pow_pos k) same, rfl⟩

theorem isZero_of_mantissa {x : Binary64} (none : x.mantissa = 0) : x.isZero = true := by
  rw [mantissa] at none
  split at none
  · rename_i least
    rw [isZero, least, none]
    rfl
  · exact absurd none (Nat.ne_of_gt (Nat.add_pos_right _ (Nat.two_pow_pos 52)))

theorem exponentField_ne_zero {x : Binary64} {size : Nat} (positive : 0 < size)
    (valued : size * 2 ^ places = x.mantissa * 2 ^ x.doublings) : x.exponentField ≠ 0 := by
  intro least
  have bare : x.mantissa = x.fractionField := if_pos least
  have once : x.doublings = 0 := by rw [doublings, least]
  rw [bare, once, Nat.pow_zero, Nat.mul_one] at valued
  have small := x.fractionField_lt
  have large : 2 ^ 52 ≤ size * 2 ^ places :=
    calc 2 ^ 52 ≤ 2 ^ places := Nat.pow_le_pow_right (by decide) le_places
      _ = 1 * 2 ^ places := (Nat.one_mul _).symm
      _ ≤ size * 2 ^ places := Nat.mul_le_mul_right _ positive
  rw [valued] at large
  exact Nat.lt_irrefl _ (Nat.lt_of_le_of_lt large small)

theorem isNaN_of_toInt? {x : Binary64} {n : Int} (whole : x.toInt? = some n) : x.isNaN = false := by
  rw [toInt?] at whole
  split at whole
  · cases whole
  · rename_i finite
    rw [isNaN, beq_eq_false_iff_ne.mpr finite, Bool.false_and]

theorem sameValue_of_toInt? {x y : Binary64} {n : Int} (whole : x.toInt? = some n)
    (whole' : y.toInt? = some n) : x.sameValue y = true := by
  obtain ⟨valued, sign⟩ := of_toInt? whole
  obtain ⟨valued', sign'⟩ := of_toInt? whole'
  have same : x = y ∨ (x.isZero = true ∧ y.isZero = true) := by
    by_cases zero : n = 0
    · have none {x : Binary64} (valued : n.natAbs * 2 ^ places = x.mantissa * 2 ^ x.doublings) :
          x.isZero = true := by
        rw [zero, Int.natAbs_zero, Nat.zero_mul] at valued
        exact isZero_of_mantissa
          ((Nat.mul_eq_zero.mp valued.symm).resolve_right (Nat.ne_of_gt (Nat.two_pow_pos _)))
      exact .inr ⟨none valued, none valued'⟩
    · have positive : 0 < n.natAbs := Int.natAbs_pos.mpr zero
      have normal := exponentField_ne_zero positive valued
      have normal' := exponentField_ne_zero positive valued'
      have leading {x : Binary64} (normal : x.exponentField ≠ 0) :
          x.mantissa = x.fractionField + 2 ^ 52 := if_neg normal
      obtain ⟨mantissas, exponents⟩ := eq_of_doubled (by rw [leading normal]; exact Nat.le_add_left ..)
        (by rw [leading normal']; exact Nat.le_add_left ..) x.mantissa_lt y.mantissa_lt
        (valued.symm.trans valued')
      refine .inl (ext_fields (Bool.eq_iff_iff.mpr ((sign zero).trans (sign' zero).symm)) ?_ ?_)
      · rw [doublings, doublings] at exponents
        omega
      · rw [leading normal, leading normal'] at mantissas
        exact Nat.add_right_cancel mantissas
  rw [sameValue, isNaN_of_toInt? whole, isNaN_of_toInt? whole']
  simpa using same

theorem toInt?_of_isZero {x : Binary64} (zero : x.isZero = true) : x.toInt? = some 0 := by
  rw [isZero, Bool.and_eq_true, beq_iff_eq, beq_iff_eq] at zero
  have bare : x.mantissa = 0 := (if_pos zero.1).trans zero.2
  obtain ⟨down, least⟩ : ∃ down, x.scale = Int.negSucc down := ⟨1073, if_pos zero.1⟩
  rw [toInt?, if_neg (by rw [zero.1]; decide), least, bare]
  dsimp only
  rw [if_pos (Nat.zero_mod _), Nat.zero_div]
  cases x.negative <;> rfl

variable {x y z : Binary64}

theorem sameValue_iff : x.sameValue y = true ↔
    x.isNaN = false ∧ y.isNaN = false ∧ (x = y ∨ x.isZero = true ∧ y.isZero = true) := by
  simp [sameValue, and_assoc]

theorem sameValue_self (number : x.isNaN = false) : x.sameValue x = true :=
  sameValue_iff.mpr ⟨number, number, .inl rfl⟩

theorem sameValue_symm (same : x.sameValue y = true) : y.sameValue x = true := by
  obtain ⟨first, second, equal⟩ := sameValue_iff.mp same
  exact sameValue_iff.mpr ⟨second, first, equal.imp Eq.symm And.symm⟩

theorem sameValue_trans (same : x.sameValue y = true) (next : y.sameValue z = true) :
    x.sameValue z = true := by
  obtain ⟨first, -, equal⟩ := sameValue_iff.mp same
  obtain ⟨-, third, equal'⟩ := sameValue_iff.mp next
  refine sameValue_iff.mpr ⟨first, third, ?_⟩
  rcases equal with rfl | zeros
  · exact equal'
  · rcases equal' with rfl | zeros'
    · exact .inr zeros
    · exact .inr ⟨zeros.1, zeros'.2⟩

theorem toInt?_of_sameValue (same : x.sameValue y = true) : x.toInt? = y.toInt? := by
  obtain ⟨-, -, rfl | ⟨zero, zero'⟩⟩ := sameValue_iff.mp same
  · rfl
  · rw [toInt?_of_isZero zero, toInt?_of_isZero zero']

end TypeAtlas.Binary64
