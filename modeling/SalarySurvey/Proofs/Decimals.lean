import SalarySurvey.Number.Style
import SalarySurvey.Proofs.Rounding
import Mathlib.Order.Monotone.Basic
import Mathlib.Tactic.Ring

/-!
# Shortest decimals round back

The units of magnitudes rise strictly, and the floor magnitude of a natural number is the one whose
units enclose it. So a quotient rounds to a magnitude when it lies between the two midpoints around
it, and on one of them if the magnitude is even. Every shortest decimal lies there: the search tests
it on each grid, and the last grid holds the number itself. Hence reading the shortest decimal of a
number gives the number.
-/
namespace SalarySurvey.Binary64

section Units

variable {magnitude shift quotient count : Nat}

/-- The units of a magnitude by its two fields. -/
theorem units_parts {exponent fraction : Nat} (inside : fraction < fractionCount) :
    units (exponent * fractionCount + fraction) =
      if exponent = 0 then fraction else (fractionCount + fraction) * Nat.pow 2 (exponent - 1) := by
  have upper : (exponent * fractionCount + fraction) / fractionCount = exponent := by
    rw [Nat.mul_comm, Nat.mul_add_div (by decide), Nat.div_eq_of_lt inside, Nat.add_zero]
  have lower : (exponent * fractionCount + fraction) % fractionCount = fraction := by
    rw [Nat.mul_comm, Nat.mul_add_mod, Nat.mod_eq_of_lt inside]
  simp only [units, upper, lower]

/-- In every binade, up to the first magnitude of the next one, the units are a scaled quotient. -/
theorem units_binade (low : fractionCount ≤ quotient) (high : quotient ≤ 2 * fractionCount) :
    units (shift * fractionCount + quotient) = quotient * Nat.pow 2 shift := by
  rcases Nat.lt_or_eq_of_le high with inside | border
  · have parts : shift * fractionCount + quotient =
        (shift + 1) * fractionCount + (quotient - fractionCount) := by
      rw [Nat.succ_mul]
      omega
    rw [parts, units_parts (by omega), if_neg (Nat.succ_ne_zero shift),
      Nat.add_sub_cancel' low, Nat.add_sub_cancel]
  · have parts : shift * fractionCount + quotient = (shift + 2) * fractionCount + 0 := by
      rw [border]
      ring
    rw [parts, units_parts (by decide), if_neg (Nat.succ_ne_zero (shift + 1)), border]
    show fractionCount * 2 ^ (shift + 1) = 2 * fractionCount * 2 ^ shift
    ring

/-- In the first two binades a magnitude is its own units. -/
theorem units_of_le (small : magnitude ≤ 2 * fractionCount) : units magnitude = magnitude := by
  by_cases low : fractionCount ≤ magnitude
  · have scaled := @units_binade 0 magnitude low small
    rwa [Nat.zero_mul, Nat.zero_add, Nat.pow_eq, Nat.pow_zero, Nat.mul_one] at scaled
  · have parts := @units_parts 0 magnitude (by omega)
    rwa [if_pos rfl, Nat.zero_mul, Nat.zero_add] at parts

/-- A magnitude above the first binade is a shift and a quotient of all 53 bits. -/
theorem exists_binade (large : fractionCount ≤ magnitude) :
    ∃ shift quotient, fractionCount ≤ quotient ∧ quotient < 2 * fractionCount ∧
      magnitude = shift * fractionCount + quotient := by
  simp only [fractionCount] at large ⊢
  exact ⟨magnitude / 0x10000000000000 - 1, 0x10000000000000 + magnitude % 0x10000000000000,
    by omega, by omega, by omega⟩

/-- The next magnitude has more units. -/
theorem units_lt_succ (magnitude : Nat) : units magnitude < units (magnitude + 1) := by
  by_cases large : fractionCount ≤ magnitude
  · obtain ⟨shift, quotient, low, high, rfl⟩ := exists_binade large
    rw [units_binade low (by omega), Nat.add_assoc, units_binade (by omega) (by omega)]
    exact Nat.mul_lt_mul_of_pos_right (Nat.lt_succ_self quotient) (Nat.two_pow_pos shift)
  · rw [units_of_le (by omega), units_of_le (by omega)]
    exact Nat.lt_succ_self magnitude

theorem units_strictMono : StrictMono units := strictMono_nat_of_lt_succ units_lt_succ

/-- A natural number lies between the units of its floor magnitude and those of the next one. -/
theorem units_floorMagnitude (count : Nat) :
    units (floorMagnitude count) ≤ count ∧ count < units (floorMagnitude count + 1) := by
  have high := binade_lt count
  unfold floorMagnitude
  dsimp only
  by_cases wide : 52 < count.log2
  · have low := le_binade wide
    rw [Nat.add_assoc, units_binade low (by omega), units_binade (by omega) (by omega)]
    exact ⟨Nat.div_mul_le_self _ _, Nat.lt_mul_of_div_lt (Nat.lt_succ_self _) (Nat.two_pow_pos _)⟩
  · have narrow : count.log2 - 52 = 0 := by omega
    rw [narrow] at high ⊢
    have whole : count / Nat.pow 2 0 = count := Nat.div_one count
    rw [whole] at high ⊢
    rw [Nat.zero_mul, Nat.zero_add, units_of_le (by omega), units_of_le (by omega)]
    exact ⟨Nat.le_refl _, Nat.lt_succ_self _⟩

/-- The floor magnitude is the only one whose units enclose the number in this way. -/
theorem floorMagnitude_eq (below : units magnitude ≤ count)
    (above : count < units (magnitude + 1)) :
    floorMagnitude count = magnitude := by
  obtain ⟨low, high⟩ := units_floorMagnitude count
  have left := units_strictMono.lt_iff_lt.mp (Nat.lt_of_le_of_lt low above)
  have right := units_strictMono.lt_iff_lt.mp (Nat.lt_of_le_of_lt below high)
  omega

end Units

/-- Whether a quotient of half units rounds to a magnitude: it does not lie beyond the midpoints on
both sides, and on one of them only if the magnitude is even. -/
structure Rounds (magnitude halves denominator : Nat) : Prop where
  /-- The midpoint below is not above the quotient. -/
  above : (units (magnitude - 1) + units magnitude) * denominator ≤ halves
  /-- The midpoint above is not below it. -/
  below : halves ≤ (units magnitude + units (magnitude + 1)) * denominator
  /-- Midpoints belong to the even neighbour. -/
  inside : magnitude % 2 = 1 →
    (units (magnitude - 1) + units magnitude) * denominator < halves ∧
      halves < (units magnitude + units (magnitude + 1)) * denominator

/-- What is tested on a grid is whether its decimal rounds to the magnitude. -/
theorem rounds_of_roundsBack {magnitude digits : Nat} {step : Nat × Nat}
    (tested : roundsBack magnitude digits step = true) :
    Rounds magnitude (digits * step.1) step.2 := by
  unfold roundsBack at tested
  dsimp only at tested
  split at tested
  · next even =>
    simp only [Bool.and_eq_true, decide_eq_true_eq] at tested
    exact ⟨tested.1, tested.2, fun odd => by omega⟩
  · simp only [Bool.and_eq_true, decide_eq_true_eq] at tested
    exact ⟨Nat.le_of_lt tested.1, Nat.le_of_lt tested.2, fun _ => tested⟩

namespace Rounds

variable {magnitude halves denominator : Nat}

/-- Only the quotient counts, not the numbers that it is made of. -/
theorem scale (rounds : Rounds magnitude halves denominator) {factor : Nat}
    (positive : 0 < factor) :
    Rounds magnitude (halves * factor) (denominator * factor) := by
  constructor
  · rw [← Nat.mul_assoc]
    exact Nat.mul_le_mul_right factor rounds.above
  · rw [← Nat.mul_assoc]
    exact Nat.mul_le_mul_right factor rounds.below
  · intro odd
    obtain ⟨low, high⟩ := rounds.inside odd
    rw [← Nat.mul_assoc, ← Nat.mul_assoc]
    exact ⟨Nat.mul_lt_mul_of_pos_right low positive, Nat.mul_lt_mul_of_pos_right high positive⟩

/-- A magnitude rounds to itself. -/
theorem self (positive : 0 < magnitude) (denominator : Nat) (some : 0 < denominator) :
    Rounds magnitude (2 * units magnitude * denominator) denominator := by
  have before : units (magnitude - 1) < units magnitude := units_strictMono (by omega)
  have after := units_lt_succ magnitude
  have low : (units (magnitude - 1) + units magnitude) * denominator <
      2 * units magnitude * denominator := Nat.mul_lt_mul_of_pos_right (by omega) some
  have high : 2 * units magnitude * denominator <
      (units magnitude + units (magnitude + 1)) * denominator :=
    Nat.mul_lt_mul_of_pos_right (by omega) some
  exact ⟨Nat.le_of_lt low, Nat.le_of_lt high, fun _ => ⟨low, high⟩⟩

/-- A quotient that rounds to a finite magnitude has it as its nearest one. -/
theorem nearest_eq {numerator : Nat} (rounds : Rounds magnitude (2 * numerator) denominator)
    (positive : 0 < magnitude) (finite : magnitude < infinityMagnitude) (some : 0 < denominator) :
    nearest numerator denominator = magnitude := by
  obtain ⟨previous, rfl⟩ : ∃ previous, magnitude = previous + 1 :=
    ⟨magnitude - 1, by omega⟩
  obtain ⟨above, below, inside⟩ := rounds
  rw [Nat.add_sub_cancel] at above inside
  have before := units_lt_succ previous
  have after := units_lt_succ (previous + 1)
  have low : units previous ≤ numerator / denominator := by
    rw [Nat.le_div_iff_mul_le some]
    have scaled : 2 * units previous * denominator ≤
        (units previous + units (previous + 1)) * denominator :=
      Nat.mul_le_mul_right denominator (by omega)
    rw [Nat.mul_assoc] at scaled
    omega
  have high : numerator / denominator < units (previous + 1 + 1) := by
    rw [Nat.div_lt_iff_lt_mul some]
    have scaled : (units (previous + 1) + units (previous + 1 + 1)) * denominator <
        2 * units (previous + 1 + 1) * denominator :=
      Nat.mul_lt_mul_of_pos_right (by omega) some
    rw [Nat.mul_assoc 2] at scaled
    omega
  unfold nearest
  dsimp only
  -- The floor is the magnitude or the one before it, so the midpoint between decides.
  by_cases reached : units (previous + 1) ≤ numerator / denominator
  · rw [floorMagnitude_eq reached high, if_neg (by omega)]
    rcases Nat.lt_or_eq_of_le below with less | tie
    · rw [Nat.compare_eq_lt.mpr less]
    · rw [Nat.compare_eq_eq.mpr tie]
      have even : (previous + 1) % 2 = 0 := by
        by_contra odd
        have strict := (inside (by omega)).2
        omega
      rw [if_pos even]
  · rw [floorMagnitude_eq low (by omega), if_neg (by omega)]
    rcases Nat.lt_or_eq_of_le above with more | tie
    · rw [Nat.compare_eq_gt.mpr more]
    · rw [Nat.compare_eq_eq.mpr tie.symm]
      have odd : previous % 2 ≠ 0 := by
        intro even
        have strict := (inside (by omega)).1
        omega
      rw [if_neg odd]

end Rounds

section Search

variable {magnitude : Nat}

/-- Whether a decimal rounds to a magnitude. -/
def Decimal.RoundsTo (decimal : Decimal) (magnitude : Nat) : Prop :=
  Rounds magnitude (decimal.digits * (gridStep decimal.exponent).1) (gridStep decimal.exponent).2

/-- A neighbour that a grid yields was tested. -/
theorem roundsBack_of_neighbour? {tie : Tie} {step : Nat × Nat} {digits : Nat}
    (found : neighbour? tie magnitude step = some digits) :
    roundsBack magnitude digits step = true := by
  unfold neighbour? at found
  dsimp only at found
  split at found
  · contradiction
  · next below _ => rwa [← Option.some.inj found]
  · next _ above => rwa [← Option.some.inj found]
  · next below above =>
    split at found
    · rwa [← Option.some.inj found]
    · rwa [← Option.some.inj found]
    · rw [← Option.some.inj found]
      split <;> assumption
    · rwa [← Option.some.inj found]

/-- The step of a grid of decimal places. -/
theorem gridStep_neg {places : Nat} (some : 0 < places) :
    gridStep (-(places : Int)) = (2 * unitsOfOne, Nat.pow 10 places) := by
  have negative : ¬0 ≤ -(places : Int) := by omega
  rw [gridStep, if_neg negative, Int.neg_neg, Int.toNat_natCast]

/-- The step of a grid of whole numbers. -/
theorem gridStep_natCast (zeros : Nat) :
    gridStep (zeros : Int) = (Nat.pow 10 zeros * (2 * unitsOfOne), 1) := by
  rw [gridStep, if_pos (Int.natCast_nonneg zeros), Int.toNat_natCast]

/-- The grid of as many decimal places as one has binary places holds every number. -/
theorem roundsTo_last (positive : 0 < magnitude) {places : Nat} (some : 0 < places)
    (scale : unitsOfOne = Nat.pow 2 places) :
    Decimal.RoundsTo ⟨2 * units magnitude * (gridStep (-(places : Int))).2 /
      (gridStep (-(places : Int))).1, -(places : Int)⟩ magnitude := by
  have tens : Nat.pow 10 places = Nat.pow 5 places * unitsOfOne := by
    rw [scale]
    exact Nat.mul_pow 5 2 places
  have whole : 2 * units magnitude * Nat.pow 10 places =
      units magnitude * Nat.pow 5 places * (2 * unitsOfOne) := by
    rw [tens]
    ring
  have wide : 0 < 2 * unitsOfOne := by
    rw [scale]
    exact Nat.mul_pos (by decide) (Nat.two_pow_pos places)
  simp only [Decimal.RoundsTo, gridStep_neg some]
  rw [whole, Nat.mul_div_cancel _ wide, ← whole]
  exact Rounds.self positive _ (Nat.pow_pos (by decide))

/-- A search that ends at the last grid finds a decimal that rounds to the magnitude. -/
theorem roundsTo_firstDecimal (positive : 0 < magnitude) (tie : Tie) (grids : Nat) :
    (firstDecimal tie magnitude grids (grids - 1074)).RoundsTo magnitude := by
  induction grids with
  | zero =>
    have start : ((0 : Nat) : Int) - 1074 = -((1074 : Nat) : Int) := rfl
    rw [start, firstDecimal]
    exact roundsTo_last positive (by decide) (by decide +kernel)
  | succ grids ih =>
    unfold firstDecimal
    split
    · next digits found => exact rounds_of_roundsBack (roundsBack_of_neighbour? found)
    · have next : ((grids + 1 : Nat) : Int) - 1074 - 1 = grids - 1074 := by omega
      rwa [next]

/-- The shortest decimal rounds to the magnitude. -/
theorem roundsTo_shortest (positive : 0 < magnitude) (tie : Tie) :
    (shortest tie magnitude).RoundsTo magnitude := by
  have grids := roundsTo_firstDecimal positive tie (topExponent magnitude + 1074).toNat
  have top : -1074 ≤ topExponent magnitude := by
    unfold topExponent
    omega
  have start : ((topExponent magnitude + 1074).toNat : Int) - 1074 = topExponent magnitude := by
    omega
  rwa [start] at grids

end Search

section Reading

variable {magnitude digits : Nat}

theorem lt_pow_length (digits : Nat) : digits < Nat.pow 10 (Nat.toDigits 10 digits).length :=
  (Nat.length_toDigits_le_iff (by decide) Nat.length_toDigits_pos).mp (Nat.le_refl _)

theorem pow_le_of_length {bound : Nat} (short : bound < (Nat.toDigits 10 digits).length)
    (positive : 0 < digits) : Nat.pow 10 bound ≤ digits := by
  by_cases zero : bound = 0
  · subst zero
    exact positive
  · have long := mt (Nat.length_toDigits_le_iff (by decide) (Nat.pos_of_ne_zero zero)).mpr
      (Nat.not_le.mpr short)
    exact Nat.not_lt.mp long

/-- A decimal that rounds to a magnitude is at least half of the least positive number. -/
theorem Decimal.RoundsTo.half_le {decimal : Decimal} (rounds : decimal.RoundsTo magnitude)
    (positive : 0 < magnitude) :
    (gridStep decimal.exponent).2 ≤ decimal.digits * (gridStep decimal.exponent).1 := by
  have some : 0 < units magnitude := Nat.lt_of_le_of_lt (Nat.zero_le _) (units_strictMono positive)
  calc
    (gridStep decimal.exponent).2 ≤
        (units (magnitude - 1) + units magnitude) * (gridStep decimal.exponent).2 :=
      Nat.le_mul_of_pos_left _ (by omega)
    _ ≤ decimal.digits * (gridStep decimal.exponent).1 := rounds.above

/-- A decimal that rounds to a positive magnitude is not zero. -/
theorem Decimal.RoundsTo.digits_pos {decimal : Decimal} (rounds : decimal.RoundsTo magnitude)
    (positive : 0 < magnitude) : 0 < decimal.digits := by
  have some : 0 < (gridStep decimal.exponent).2 := by
    unfold gridStep
    split
    · exact Nat.one_pos
    · exact Nat.pow_pos (by decide)
  exact Nat.pos_of_mul_pos_right (Nat.lt_of_lt_of_le some (rounds.half_le positive))

/-- A decimal that rounds to a finite magnitude is not above the units of infinity. -/
theorem Decimal.RoundsTo.le_infinity {decimal : Decimal} (rounds : decimal.RoundsTo magnitude)
    (finite : magnitude < infinityMagnitude) :
    decimal.digits * (gridStep decimal.exponent).1 ≤
      2 * units infinityMagnitude * (gridStep decimal.exponent).2 := by
  have here : units magnitude ≤ units infinityMagnitude :=
    units_strictMono.monotone (Nat.le_of_lt finite)
  have next : units (magnitude + 1) ≤ units infinityMagnitude := units_strictMono.monotone finite
  calc
    decimal.digits * (gridStep decimal.exponent).1 ≤
        (units magnitude + units (magnitude + 1)) * (gridStep decimal.exponent).2 := rounds.below
    _ ≤ 2 * units infinityMagnitude * (gridStep decimal.exponent).2 :=
      Nat.mul_le_mul_right _ (by omega)

theorem pow_ten_add (m n : Nat) : Nat.pow 10 (m + n) = Nat.pow 10 m * Nat.pow 10 n :=
  Nat.pow_add 10 m n

theorem pow_ten_mono {m n : Nat} (ordered : m ≤ n) : Nat.pow 10 m ≤ Nat.pow 10 n :=
  Nat.pow_le_pow_right (by decide) ordered

/-- A whole decimal can be written with a zero behind its point. -/
theorem Decimal.RoundsTo.tenths {zeros : Nat}
    (rounds : Decimal.RoundsTo ⟨digits, zeros⟩ magnitude) :
    Decimal.RoundsTo ⟨digits * Nat.pow 10 (zeros + 1), -1⟩ magnitude := by
  have scaled := Rounds.scale rounds (show 0 < 10 by decide)
  simp only [gridStep_natCast] at scaled
  have same : digits * Nat.pow 10 (zeros + 1) * (2 * unitsOfOne) =
      digits * (Nat.pow 10 zeros * (2 * unitsOfOne)) * 10 := by
    show digits * (10 ^ zeros * 10) * (2 * unitsOfOne) =
      digits * (10 ^ zeros * (2 * unitsOfOne)) * 10
    ring
  have step : gridStep (-1) = (2 * unitsOfOne, 1 * 10) := gridStep_neg Nat.one_pos
  rwa [Decimal.RoundsTo, step, same]

/-- A power of ten of 310 zeros is above the units of infinity. -/
theorem exists_infinity_lt : ∃ bound ≤ 310,
    2 * units infinityMagnitude < Nat.pow 10 bound * (2 * unitsOfOne) :=
  ⟨310, Nat.le_refl _, by decide +kernel⟩

/-- The least positive number has no more than 330 zeros behind its point. -/
theorem exists_unitsOfOne_le : ∃ bound ≤ 330, 2 * unitsOfOne ≤ Nat.pow 10 (bound + 1) :=
  ⟨330, Nat.le_refl _, by decide +kernel⟩

/-- Digits and zeros behind them that stay below a power of ten are as few as its zeros. -/
theorem length_add_le {zeros bound step limit : Nat} (some : 0 < digits)
    (most : digits * (Nat.pow 10 zeros * step) ≤ limit) (least : limit < Nat.pow 10 bound * step) :
    (Nat.toDigits 10 digits).length + zeros ≤ bound := by
  have filled : 0 < (Nat.toDigits 10 digits).length := Nat.length_toDigits_pos
  by_contra long
  have front : Nat.pow 10 ((Nat.toDigits 10 digits).length - 1) ≤ digits :=
    pow_le_of_length (by omega) some
  have strict : limit < limit := by
    calc
      limit < Nat.pow 10 bound * step := least
      _ ≤ Nat.pow 10 ((Nat.toDigits 10 digits).length - 1 + zeros) * step :=
        Nat.mul_le_mul_right _ (pow_ten_mono (by omega))
      _ = Nat.pow 10 ((Nat.toDigits 10 digits).length - 1) * (Nat.pow 10 zeros * step) := by
        rw [pow_ten_add, Nat.mul_assoc]
      _ ≤ digits * (Nat.pow 10 zeros * step) := Nat.mul_le_mul_right _ front
      _ ≤ limit := most
  exact Nat.lt_irrefl _ strict

/-- Digits that reach a power of ten when they are scaled are not fewer than its zeros by more than
the zeros of the scale. -/
theorem le_length_add {places bound step : Nat} (positive : 0 < step)
    (least : Nat.pow 10 places ≤ digits * step) (small : step ≤ Nat.pow 10 (bound + 1)) :
    places ≤ (Nat.toDigits 10 digits).length + bound := by
  by_contra tiny
  have strict : Nat.pow 10 places < Nat.pow 10 places := by
    calc
      Nat.pow 10 places ≤ digits * step := least
      _ < Nat.pow 10 (Nat.toDigits 10 digits).length * step :=
        Nat.mul_lt_mul_of_pos_right (lt_pow_length digits) positive
      _ ≤ Nat.pow 10 (Nat.toDigits 10 digits).length * Nat.pow 10 (bound + 1) :=
        Nat.mul_le_mul_left _ small
      _ = Nat.pow 10 ((Nat.toDigits 10 digits).length + (bound + 1)) :=
        (pow_ten_add _ _).symm
      _ ≤ Nat.pow 10 places := pow_ten_mono (by omega)
  exact Nat.lt_irrefl _ strict

/-- A whole decimal that rounds to a finite magnitude has at most 310 places. -/
theorem places_natCast {zeros : Nat} (rounds : Decimal.RoundsTo ⟨digits, zeros⟩ magnitude)
    (positive : 0 < magnitude) (finite : magnitude < infinityMagnitude) :
    (Nat.toDigits 10 digits).length + zeros ≤ 310 := by
  have high := rounds.le_infinity finite
  simp only [gridStep_natCast, Nat.mul_one] at high
  obtain ⟨bound, within, ceiling⟩ := exists_infinity_lt
  exact Nat.le_trans (length_add_le (rounds.digits_pos positive) high ceiling) within

/-- A decimal with places behind its point that rounds to a positive finite magnitude has at most
330 zeros behind the point and 310 places in front of it. -/
theorem places_neg {places : Nat} (some : 0 < places)
    (rounds : Decimal.RoundsTo ⟨digits, -(places : Int)⟩ magnitude) (positive : 0 < magnitude)
    (finite : magnitude < infinityMagnitude) :
    places ≤ (Nat.toDigits 10 digits).length + 330 ∧
      (Nat.toDigits 10 digits).length ≤ 310 + places := by
  have low := rounds.half_le positive
  have high := rounds.le_infinity finite
  simp only [gridStep_neg some] at low high
  have tens : 0 < Nat.pow 10 places := Nat.pow_pos (by decide)
  obtain ⟨least, small, floor⟩ := exists_unitsOfOne_le
  obtain ⟨most, large, ceiling⟩ := exists_infinity_lt
  -- The two units are numbers of a thousand bits, which no step below may evaluate.
  generalize 2 * unitsOfOne = step at low high floor ceiling
  generalize 2 * units infinityMagnitude = limit at high ceiling
  have near : places ≤ (Nat.toDigits 10 digits).length + least :=
    le_length_add (Nat.pos_of_mul_pos_left (Nat.lt_of_lt_of_le tens low)) low floor
  have scaled : limit * Nat.pow 10 places < Nat.pow 10 (most + places) * step := by
    rw [pow_ten_add, Nat.mul_right_comm]
    exact Nat.mul_lt_mul_of_pos_right ceiling tens
  have whole : digits * (Nat.pow 10 0 * step) ≤ limit * Nat.pow 10 places := by
    rwa [Nat.pow_eq, Nat.pow_zero, Nat.one_mul]
  have filled : 0 < digits := rounds.digits_pos positive
  have short := length_add_le filled whole scaled
  exact ⟨by omega, by omega⟩

/-- Reading a decimal that rounds to the magnitude of a finite number other than zero gives that
number. -/
theorem ofDecimal_eq {x : Binary64} (positive : 0 < x.magnitude) (finite : x.isFinite = true)
    {decimal : Decimal} (rounds : decimal.RoundsTo x.magnitude) :
    ofDecimal x.negative decimal.digits decimal.exponent = x := by
  obtain ⟨digits, exponent⟩ := decimal
  have small : x.magnitude < infinityMagnitude := by simpa [isFinite] using finite
  have built {numerator denominator : Nat}
      (nearest_eq : nearest numerator denominator = x.magnitude) :
      ofUnits x.negative numerator denominator = x := by
    unfold ofUnits
    cases x
    simp_all
  have filled : 0 < digits := rounds.digits_pos positive
  unfold ofDecimal
  dsimp only
  by_cases whole : 0 ≤ exponent
  · obtain ⟨zeros, rfl⟩ := Int.eq_ofNat_of_zero_le whole
    have short := places_natCast rounds positive small
    rw [if_neg (by omega), if_neg (by omega), if_pos whole, Int.toNat_natCast]
    apply built
    apply Rounds.nearest_eq _ positive small Nat.one_pos
    have scaled : 2 * (digits * Nat.pow 10 zeros * unitsOfOne) =
        digits * (Nat.pow 10 zeros * (2 * unitsOfOne)) := by
      ring
    rw [Decimal.RoundsTo, gridStep_natCast] at rounds
    rwa [scaled]
  · obtain ⟨places, rfl⟩ : ∃ places : Nat, exponent = -(places : Int) :=
      ⟨(-exponent).toNat, by omega⟩
    have some : 0 < places := by omega
    obtain ⟨near, short⟩ := places_neg some rounds positive small
    rw [if_neg (by omega), if_neg (by omega), if_neg whole, Int.neg_neg, Int.toNat_natCast]
    apply built
    apply Rounds.nearest_eq _ positive small (Nat.pow_pos (by decide))
    have scaled : 2 * (digits * unitsOfOne) = digits * (2 * unitsOfOne) := by ring
    rw [Decimal.RoundsTo, gridStep_neg some] at rounds
    rwa [scaled]

end Reading

end SalarySurvey.Binary64
