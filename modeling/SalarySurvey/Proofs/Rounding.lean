import SalarySurvey.Number.Binary64
import Mathlib.Data.Nat.Log

/-!
# Rounding keeps the order

A greater natural number never rounds to a smaller magnitude. The floor magnitude rises with its
argument inside a binade, since the quotient does, and from one binade to the next, since the
quotient of every binade fills the same range. Between two neighbouring magnitudes the side of
the midpoint decides, and that rises too. With the sign this makes rounding of integers monotone
in the order of values.
-/
namespace SalarySurvey.Binary64

/-- The quotient in the binade of a natural number has 53 bits. -/
theorem binade_lt (count : Nat) : count / Nat.pow 2 (count.log2 - 52) < 2 * fractionCount := by
  show count / 2 ^ (count.log2 - 52) < 2 * fractionCount
  rw [Nat.div_lt_iff_lt_mul (Nat.two_pow_pos _)]
  calc
    count < 2 ^ (count.log2 + 1) := Nat.lt_log2_self
    _ ≤ 2 ^ (53 + (count.log2 - 52)) := Nat.pow_le_pow_right (by decide) (by omega)
    _ = 2 * fractionCount * 2 ^ (count.log2 - 52) := by rw [Nat.pow_add]; rfl

/-- Above the first binade the quotient has all of its 53 bits. -/
theorem le_binade {count : Nat} (high : 52 < count.log2) :
    fractionCount ≤ count / Nat.pow 2 (count.log2 - 52) := by
  show fractionCount ≤ count / 2 ^ (count.log2 - 52)
  rw [Nat.le_div_iff_mul_le (Nat.two_pow_pos _)]
  have positive : count ≠ 0 := by
    rintro rfl
    simp at high
  calc
    fractionCount * 2 ^ (count.log2 - 52) = 2 ^ (52 + (count.log2 - 52)) := by
      rw [Nat.pow_add]; rfl
    _ = 2 ^ count.log2 := by rw [Nat.add_sub_cancel' (by omega)]
    _ ≤ count := Nat.log2_self_le positive

/-- The binade of a greater natural number is not lower. -/
theorem log2_mono {m n : Nat} (ordered : m ≤ n) : m.log2 ≤ n.log2 := by
  rw [Nat.log2_eq_log_two, Nat.log2_eq_log_two]
  exact Nat.log_mono_right ordered

/-- A greater natural number has no smaller floor magnitude. -/
theorem floorMagnitude_mono {m n : Nat} (ordered : m ≤ n) :
    floorMagnitude m ≤ floorMagnitude n := by
  have binades := log2_mono ordered
  unfold floorMagnitude
  dsimp only
  by_cases same : m.log2 - 52 = n.log2 - 52
  · rw [same]
    exact Nat.add_le_add_left (Nat.div_le_div_right ordered) _
  · have upper := binade_lt m
    have lower : fractionCount ≤ n / Nat.pow 2 (n.log2 - 52) := le_binade (by omega)
    have gap : (m.log2 - 52 + 1) * fractionCount ≤ (n.log2 - 52) * fractionCount :=
      Nat.mul_le_mul_right _ (by omega)
    rw [Nat.add_mul] at gap
    omega

/-- Rounding yields the floor magnitude or the next one, and nothing beyond infinity. -/
theorem nearest_bounds (numerator denominator : Nat) :
    min infinityMagnitude (floorMagnitude (numerator / denominator)) ≤
        nearest numerator denominator ∧
      nearest numerator denominator ≤ floorMagnitude (numerator / denominator) + 1 := by
  unfold nearest
  dsimp only
  split
  · omega
  · split
    · omega
    · omega
    · split <;> omega

/-- A greater numerator does not round to a smaller magnitude. -/
theorem nearest_mono {m n : Nat} (denominator : Nat) (ordered : m ≤ n) :
    nearest m denominator ≤ nearest n denominator := by
  have floors := floorMagnitude_mono (Nat.div_le_div_right (c := denominator) ordered)
  by_cases same : floorMagnitude (m / denominator) = floorMagnitude (n / denominator)
  · -- Both lie between the same two magnitudes, so the midpoint decides.
    unfold nearest
    rw [same]
    generalize floorMagnitude (n / denominator) = low
    dsimp only
    generalize (units low + units (low + 1)) * denominator = middle
    split
    · exact Nat.le_refl _
    · rcases Nat.lt_trichotomy (2 * n) middle with below | tie | above
      · have before : 2 * m < middle := by omega
        rw [Nat.compare_eq_lt.mpr below, Nat.compare_eq_lt.mpr before]
      · rw [Nat.compare_eq_eq.mpr tie]
        rcases Nat.lt_or_eq_of_le (show 2 * m ≤ middle by omega) with before | even
        · rw [Nat.compare_eq_lt.mpr before]
          dsimp only
          split <;> omega
        · rw [Nat.compare_eq_eq.mpr even]
      · rw [Nat.compare_eq_gt.mpr above]
        dsimp only
        split
        · omega
        · omega
        · split <;> omega
  · have left := nearest_bounds m denominator
    have right := nearest_bounds n denominator
    have finite := nearest_le m denominator
    omega

/-- Rounding integers keeps their order in the order of values. -/
theorem valueKey_ofInt_mono {i j : Int} (ordered : i ≤ j) :
    (ofInt i).valueKey ≤ (ofInt j).valueKey := by
  have scaled {m n : Nat} (smaller : m ≤ n) :
      nearest (m * unitsOfOne) 1 ≤ nearest (n * unitsOfOne) 1 :=
    nearest_mono 1 (Nat.mul_le_mul_right unitsOfOne smaller)
  simp only [valueKey, ofInt, ofUnits, decide_eq_true_eq]
  by_cases negative : i < 0
  · by_cases below : j < 0
    · have larger := scaled (show j.natAbs ≤ i.natAbs by omega)
      rw [if_pos negative, if_pos below]
      omega
    · rw [if_pos negative, if_neg below]
      omega
  · have larger := scaled (show i.natAbs ≤ j.natAbs by omega)
    rw [if_neg negative, if_neg (show ¬j < 0 by omega)]
    omega

/-- A rounded number is no NaN. -/
theorem isNaN_ofUnits (negative : Bool) (numerator denominator : Nat) :
    (ofUnits negative numerator denominator).isNaN = false := by
  exact decide_eq_false (Nat.not_lt.mpr (nearest_le numerator denominator))

end SalarySurvey.Binary64
