/-!
# Binary64 numbers

A number of the IEEE 754 format binary64 is its sign and its magnitude: the exponent field and
the fraction field read as one natural number of 63 bits. Magnitudes are ordered as the numbers
they stand for, so both orders of the format are orders of integers: `totalKey` gives the total
order, in which a negative zero is below zero and a NaN of positive sign is above everything,
and `valueKey` gives the order of values, in which the two zeros are equal and a NaN is
incomparable.

`units` is the value of a magnitude as a multiple of the least positive number, `2 ^ -1074`.
Rounding is said through it: `nearest` is the magnitude whose units are nearest to a quotient,
and of two equally near ones the even magnitude. The magnitude of infinity takes part with the
units `2 ^ 2098` that would follow the greatest finite number, which is the rule of the standard
for overflow.
-/
namespace SalarySurvey

/-- A binary64 number. -/
structure Binary64 where
  /-- Whether the sign bit is set. -/
  negative : Bool
  /-- The exponent field followed by the fraction field. -/
  magnitude : Nat
  /-- The two fields have 63 bits. -/
  magnitude_lt : magnitude < 0x8000000000000000 := by decide
  deriving DecidableEq

namespace Binary64

/-- The magnitude of infinity: all bits of the exponent and none of the fraction. -/
def infinityMagnitude : Nat := 0x7FF0000000000000

/-- The infinity of a sign. -/
def infinity (negative : Bool) : Binary64 := ⟨negative, infinityMagnitude, by decide⟩

/-- The quiet NaN of a sign. -/
def nan (negative : Bool) : Binary64 := ⟨negative, 0x7FF8000000000000, by decide⟩

/-- The zero of a sign. -/
def zero (negative : Bool) : Binary64 := ⟨negative, 0, by decide⟩

/-- Whether a number is not a number. -/
def isNaN (x : Binary64) : Bool := infinityMagnitude < x.magnitude

/-- Whether a number is finite. -/
def isFinite (x : Binary64) : Bool := x.magnitude < infinityMagnitude

/-- The rank of a number in the total order. -/
def totalKey (x : Binary64) : Int :=
  if x.negative then -(x.magnitude : Int) - 1 else x.magnitude

/-- The rank of a number that is not NaN in the order of values. -/
def valueKey (x : Binary64) : Int :=
  if x.negative then -(x.magnitude : Int) else x.magnitude

/-- The total order. -/
def totalCompare (x y : Binary64) : Ordering :=
  compare x.totalKey y.totalKey

/-- The order of values, undefined when a NaN takes part. -/
def compare? (x y : Binary64) : Option Ordering :=
  if x.isNaN || y.isNaN then none else some (compare x.valueKey y.valueKey)

/-- The number of values of the fraction field, which has 52 bits. -/
def fractionCount : Nat := 0x10000000000000

/-- The value of a magnitude, counted in multiples of `2 ^ -1074`. -/
def units (magnitude : Nat) : Nat :=
  let exponent := magnitude / fractionCount
  let fraction := magnitude % fractionCount
  if exponent = 0 then fraction else (fractionCount + fraction) * Nat.pow 2 (exponent - 1)

/-- The units of one: the number of least positive numbers in it. -/
def unitsOfOne : Nat := Nat.pow 2 1074

/-- The greatest magnitude whose units do not exceed a natural number, beyond infinity too. -/
def floorMagnitude (count : Nat) : Nat :=
  let shift := count.log2 - 52
  shift * fractionCount + count / Nat.pow 2 shift

/-- The magnitude nearest to `numerator / denominator` units, the even one of two. -/
def nearest (numerator denominator : Nat) : Nat :=
  let low := floorMagnitude (numerator / denominator)
  if infinityMagnitude ≤ low then infinityMagnitude
  else
    match compare (2 * numerator) ((units low + units (low + 1)) * denominator) with
    | .lt => low
    | .gt => low + 1
    | .eq => if low % 2 = 0 then low else low + 1

/-- Rounding does not go beyond infinity. -/
theorem nearest_le (numerator denominator : Nat) :
    nearest numerator denominator ≤ infinityMagnitude := by
  unfold nearest
  dsimp only
  split
  · exact Nat.le_refl _
  · next h => split <;> first | omega | (split <;> omega)

/-- The number of a sign nearest to a quotient of units. -/
def ofUnits (negative : Bool) (numerator denominator : Nat) : Binary64 :=
  ⟨negative, nearest numerator denominator,
    Nat.lt_of_le_of_lt (nearest_le numerator denominator) (by decide)⟩

/-- The number nearest to a natural number. -/
def ofNat (n : Nat) : Binary64 := ofUnits false (n * unitsOfOne) 1

/-- The number nearest to an integer. Zero has the positive sign. -/
def ofInt (i : Int) : Binary64 := ofUnits (i < 0) (i.natAbs * unitsOfOne) 1

/-- The number of a sign nearest to `digits * 10 ^ exponent`. -/
def ofDecimal (negative : Bool) (digits : Nat) (exponent : Int) : Binary64 :=
  let places : Int := (Nat.toDigits 10 digits).length + exponent
  if digits = 0 ∨ places < -330 then zero negative
  else if 310 < places then infinity negative
  else if 0 ≤ exponent then ofUnits negative (digits * Nat.pow 10 exponent.toNat * unitsOfOne) 1
  else ofUnits negative (digits * unitsOfOne) (Nat.pow 10 (-exponent).toNat)

end Binary64

end SalarySurvey
