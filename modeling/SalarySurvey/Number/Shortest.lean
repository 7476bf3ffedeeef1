import SalarySurvey.Number.Binary64

/-!
# Shortest decimals

The shortest decimal of a positive finite number is a decimal `digits * 10 ^ exponent` that
rounds back to the number, on the coarsest grid `10 ^ exponent` that has such a decimal, and the
one nearest to the number among those. A number lies between two decimals of every grid, and a
grid has a decimal that rounds back exactly if one of these two neighbours does, so the grids are
tried from the coarsest on. All comparisons are of natural numbers: a grid step and the ends of
the interval that rounds to the number are counted in halves of the least positive number.
-/
namespace SalarySurvey.Binary64

/-- A decimal, `digits * 10 ^ exponent`. -/
structure Decimal where
  /-- The digits as one number. -/
  digits : Nat
  /-- The power of ten of the last digit. -/
  exponent : Int
  deriving DecidableEq

/-- Which of two equally near decimals is taken. -/
inductive Tie where
  /-- The one with the even last digit. -/
  | even
  /-- The greater one. -/
  | up
  deriving DecidableEq

/-- The step of the grid `10 ^ exponent` as a quotient of half units. -/
def gridStep (exponent : Int) : Nat × Nat :=
  if 0 ≤ exponent then (Nat.pow 10 exponent.toNat * (2 * unitsOfOne), 1)
  else (2 * unitsOfOne, Nat.pow 10 (-exponent).toNat)

/-- Whether the decimal `digits` of a grid rounds to a magnitude. The ends of the interval that
does so belong to an even magnitude. -/
def roundsBack (magnitude digits : Nat) (step : Nat × Nat) : Bool :=
  let low := (units (magnitude - 1) + units magnitude) * step.2
  let high := (units magnitude + units (magnitude + 1)) * step.2
  let value := digits * step.1
  if magnitude % 2 = 0 then low ≤ value && value ≤ high else low < value && value < high

/-- The digits of the neighbour on a grid that rounds back to a magnitude, the nearer of two. -/
def neighbour? (tie : Tie) (magnitude : Nat) (step : Nat × Nat) : Option Nat :=
  let value := 2 * units magnitude * step.2
  let below := value / step.1
  match roundsBack magnitude below step, roundsBack magnitude (below + 1) step with
  | false, false => none
  | true, false => some below
  | false, true => some (below + 1)
  | true, true =>
    match compare (value - below * step.1) ((below + 1) * step.1 - value), tie with
    | .lt, _ => some below
    | .gt, _ => some (below + 1)
    | .eq, .even => some (if below % 2 = 0 then below else below + 1)
    | .eq, .up => some (below + 1)

/-- The decimal on the first grid of some consecutive ones that has one, and on the last of them
the decimal at or below the number. -/
def firstDecimal (tie : Tie) (magnitude : Nat) : Nat → Int → Decimal
  | 0, exponent =>
    let step := gridStep exponent
    ⟨2 * units magnitude * step.2 / step.1, exponent⟩
  | grids + 1, exponent =>
    match neighbour? tie magnitude (gridStep exponent) with
    | some digits => ⟨digits, exponent⟩
    | none => firstDecimal tie magnitude grids (exponent - 1)

/-- An exponent whose power of ten exceeds a magnitude: its binary logarithm, scaled. -/
def topExponent (magnitude : Nat) : Int :=
  ((units magnitude).log2 - 1074 : Int) * 30103 / 100000 + 2

/-- The shortest decimal of a positive finite magnitude. The grid `10 ^ -1074` holds every
finite number, so the search ends there at the latest. -/
def shortest (tie : Tie) (magnitude : Nat) : Decimal :=
  let top := topExponent magnitude
  firstDecimal tie magnitude (top + 1074).toNat top

end SalarySurvey.Binary64
