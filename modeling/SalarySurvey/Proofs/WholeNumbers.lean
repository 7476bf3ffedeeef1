import SalarySurvey.Proofs.Decimals

/-!
# Whole numbers of 53 bits

A whole number up to `2 ^ 53` is a binary64 number: shifted to the left until it fills the fraction
it is the quotient of a binade. So rounding keeps it, and two of them that differ stay apart. Larger
numbers may be rounded, but not across a whole number below the limit: there the number next to it
stands in between. Hence an integer of less than 53 bits compares with every other integer after
rounding as it did before.
-/
namespace SalarySurvey.Binary64

open Std

/-- A whole number shifted to the left fills the 53 bits of a quotient. -/
theorem shifted_bounds {count : Nat} (some : 0 < count) (small : count ≤ 2 * fractionCount) :
    fractionCount ≤ count * Nat.pow 2 (52 - count.log2) ∧
      count * Nat.pow 2 (52 - count.log2) ≤ 2 * fractionCount := by
  have reached : 2 ^ count.log2 ≤ count := Nat.log2_self_le (Nat.ne_of_gt some)
  constructor
  · calc
      fractionCount = 2 ^ 52 := rfl
      _ ≤ 2 ^ (count.log2 + (52 - count.log2)) := Nat.pow_le_pow_right (by decide) (by omega)
      _ = 2 ^ count.log2 * 2 ^ (52 - count.log2) := Nat.pow_add ..
      _ ≤ count * 2 ^ (52 - count.log2) := Nat.mul_le_mul_right _ reached
  · by_cases filled : 52 ≤ count.log2
    · have unshifted : 52 - count.log2 = 0 := by omega
      rw [unshifted]
      show count * 1 ≤ 2 * fractionCount
      omega
    · calc
        count * 2 ^ (52 - count.log2) ≤ 2 ^ (count.log2 + 1) * 2 ^ (52 - count.log2) :=
          Nat.mul_le_mul_right _ (Nat.le_of_lt Nat.lt_log2_self)
        _ = 2 ^ (count.log2 + 1 + (52 - count.log2)) := (Nat.pow_add ..).symm
        _ = 2 * fractionCount := by
          have full : count.log2 + 1 + (52 - count.log2) = 53 := by omega
          rw [full]
          rfl

/-- A whole number up to the limit has the units of a magnitude, on any scale that has room for its
fraction. -/
theorem exists_units_eq {count places : Nat} (some : 0 < count) (small : count ≤ 2 * fractionCount)
    (wide : 52 ≤ places) :
    ∃ magnitude, 0 < magnitude ∧ magnitude ≤ (places + 2) * fractionCount ∧
      units magnitude = count * Nat.pow 2 places := by
  obtain ⟨low, high⟩ := shifted_bounds some small
  have positive : 0 < fractionCount := by decide
  have rest : (places - (52 - count.log2)) * fractionCount ≤ places * fractionCount :=
    Nat.mul_le_mul_right _ (Nat.sub_le ..)
  refine ⟨(places - (52 - count.log2)) * fractionCount + count * Nat.pow 2 (52 - count.log2),
    by omega, by rw [Nat.add_mul]; omega, ?_⟩
  rw [units_binade low high, Nat.mul_assoc]
  have whole : 52 - count.log2 + (places - (52 - count.log2)) = places := by omega
  have joined := Nat.pow_add 2 (52 - count.log2) (places - (52 - count.log2))
  rw [whole] at joined
  exact congrArg (count * ·) joined.symm

/-- The units of one are a power of two with room for a fraction. -/
theorem exists_unitsOfOne_eq : ∃ places, 52 ≤ places ∧ places ≤ 1074 ∧
    unitsOfOne = Nat.pow 2 places :=
  ⟨1074, by decide, by decide, by decide +kernel⟩

/-- A whole number up to the limit is rounded to a magnitude of its own units. -/
theorem units_nearest {count : Nat} (small : count ≤ 2 * fractionCount) :
    units (nearest (count * unitsOfOne) 1) = count * unitsOfOne := by
  rcases Nat.eq_zero_or_pos count with rfl | some
  · rw [Nat.zero_mul]
    decide
  · obtain ⟨places, wide, narrow, scale⟩ := exists_unitsOfOne_eq
    obtain ⟨magnitude, positive, bounded, scaled⟩ := exists_units_eq some small wide
    rw [← scale] at scaled
    have finite : magnitude < infinityMagnitude := by
      have binades : (places + 2) * fractionCount ≤ 1076 * fractionCount :=
        Nat.mul_le_mul_right _ (by omega)
      have above : 1076 * fractionCount < infinityMagnitude := by decide
      omega
    have itself := Rounds.self positive 1 Nat.one_pos
    rw [Nat.mul_one, scaled] at itself
    rw [itself.nearest_eq positive finite Nat.one_pos, scaled]

/-- Rounding keeps whole numbers up to the limit apart. -/
theorem nearest_lt {m n : Nat} (ordered : m < n) (small : n ≤ 2 * fractionCount) :
    nearest (m * unitsOfOne) 1 < nearest (n * unitsOfOne) 1 := by
  have positive : 0 < unitsOfOne := by decide +kernel
  apply units_strictMono.lt_iff_lt.mp
  rw [units_nearest (by omega), units_nearest small]
  exact Nat.mul_lt_mul_of_pos_right ordered positive

/-- Rounding keeps integers up to the limit apart. -/
theorem valueKey_ofInt_lt {i j : Int} (ordered : i < j) (low : -(2 * fractionCount : Int) ≤ i)
    (high : j ≤ 2 * fractionCount) : (ofInt i).valueKey < (ofInt j).valueKey := by
  have least : (0 : Int) ≤ nearest (j.natAbs * unitsOfOne) 1 := Int.natCast_nonneg _
  simp only [valueKey, ofInt, ofUnits, decide_eq_true_eq]
  by_cases negative : i < 0
  · rw [if_pos negative]
    by_cases below : j < 0
    · have larger : nearest (j.natAbs * unitsOfOne) 1 < nearest (i.natAbs * unitsOfOne) 1 :=
        nearest_lt (by omega) (by omega)
      rw [if_pos below]
      omega
    · have larger : nearest (0 * unitsOfOne) 1 < nearest (i.natAbs * unitsOfOne) 1 :=
        nearest_lt (by omega) (by omega)
      rw [if_neg below]
      omega
  · have larger : nearest (i.natAbs * unitsOfOne) 1 < nearest (j.natAbs * unitsOfOne) 1 :=
      nearest_lt (by omega) (by omega)
    rw [if_neg negative, if_neg (show ¬j < 0 by omega)]
    omega

/-- Rounded integers compare as values. -/
theorem compare?_ofInt (i j : Int) :
    (ofInt i).compare? (ofInt j) = some (compare (ofInt i).valueKey (ofInt j).valueKey) := by
  have left : (ofInt i).isNaN = false := isNaN_ofUnits ..
  have right : (ofInt j).isNaN = false := isNaN_ofUnits ..
  simp [compare?, left, right]

/-- An integer of less than 53 bits compares with any other one as if neither was rounded. -/
theorem compare?_ofInt_of_small {i : Int} (small : i.natAbs < 2 * fractionCount) (j : Int) :
    (ofInt i).compare? (ofInt j) = some (compare i j) := by
  rw [compare?_ofInt, Option.some.injEq]
  rcases Int.lt_trichotomy i j with below | rfl | above
  · have step : (ofInt i).valueKey < (ofInt (i + 1)).valueKey :=
      valueKey_ofInt_lt (by omega) (by omega) (by omega)
    have rest : (ofInt (i + 1)).valueKey ≤ (ofInt j).valueKey := valueKey_ofInt_mono (by omega)
    rw [Int.compare_eq_lt.mpr below, Int.compare_eq_lt.mpr (by omega)]
  · rw [compare_self, compare_self]
  · have step : (ofInt (i - 1)).valueKey < (ofInt i).valueKey :=
      valueKey_ofInt_lt (by omega) (by omega) (by omega)
    have rest : (ofInt j).valueKey ≤ (ofInt (i - 1)).valueKey := valueKey_ofInt_mono (by omega)
    rw [Int.compare_eq_gt.mpr above, Int.compare_eq_gt.mpr (by omega)]

end SalarySurvey.Binary64
