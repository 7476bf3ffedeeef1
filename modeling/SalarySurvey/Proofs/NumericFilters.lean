import SalarySurvey.Proofs.Lookup
import SalarySurvey.Proofs.WholeNumbers

/-!
# Numeric filters on integers

A filter with a value of digits alone compares an integer cell with a number. Both sides are rounded,
the cell from its 64 bits and the value from its digits, however many they are; but they are rounded
alike and rounding keeps the order, so a filter for a wide relation never misses an integer and a
filter for a strict one never takes one by mistake. On a cell of less than 53 bits nothing is lost,
and every filter decides as the two whole numbers compare.
-/
namespace SalarySurvey.Query

/-- Whether a cell meets the condition of a parameter, and none if the parameter is refused. -/
def meets? (key value : String) (cell : Cell) : Option Bool :=
  (Condition.ofParameter key value).toOption.map fun condition => condition.holdsFor cell

/-- A row of digits stands for the number nearest to its value. -/
theorem Literal.ofText_digits {text : String} (filled : text ≠ "")
    (numeric : ∀ c ∈ text.toList, c.isDigit = true) :
    Literal.ofText text = .number (.ofInt (Nat.ofDigitChars 10 text.toList 0)) := by
  have natural : Numeral.isNatural text.toList = true :=
    Numeral.isNatural_of_forall (mt String.toList_eq_nil_iff.mp filled) numeric
  rw [ofText_of_natural natural, Numeral.value_eq, Binary64.ofInt_eq_ofNat (Int.natCast_nonneg _),
    Int.natAbs_natCast]

/-- How an integer and a row of digits compare. -/
abbrev roundedCompare (i : Int64) (text : String) : Ordering :=
  compare (Binary64.ofInt i.toInt).valueKey
    (Binary64.ofInt (Nat.ofDigitChars 10 text.toList 0)).valueKey

/-- A parameter of a column with digits for its value decides about an integer by how both compare
after rounding. -/
theorem meets?_digits {key text : String} {column : Column} {operator : Operator} (filled : text ≠ "")
    (numeric : ∀ c ∈ text.toList, c.isDigit = true) (i : Int64)
    (accepted : Condition.ofParameter key text =
      .ok ⟨column, operator, .scalar (Literal.ofText text)⟩) :
    meets? key text (.integer i) = some (operator.holds (some (roundedCompare i text))) := by
  rw [meets?, accepted, Literal.ofText_digits filled numeric]
  simp only [Except.toOption, Option.map_some, Condition.holdsFor, Literal.compare?,
    Binary64.compare?_ofInt]

/-- A row of digits is not below an integer that its value is not below, after rounding too. -/
theorem roundedCompare_ne_gt {i : Int64} {text : String}
    (ordered : i.toInt ≤ Nat.ofDigitChars 10 text.toList 0) : roundedCompare i text ≠ .gt := by
  have rounded := Binary64.valueKey_ofInt_mono ordered
  intro above
  have strict := Int.compare_eq_gt.mp above
  omega

/-- A row of digits is not above an integer that its value is not above, after rounding too. -/
theorem roundedCompare_ne_lt {i : Int64} {text : String}
    (ordered : Nat.ofDigitChars 10 text.toList 0 ≤ i.toInt) : roundedCompare i text ≠ .lt := by
  have rounded := Binary64.valueKey_ofInt_mono ordered
  intro below
  have strict := Int.compare_eq_lt.mp below
  omega

/-- What holds of the filters on an integer of 64 bits with a number, by the brackets of their
keys. -/
structure SoundFilters (i n : Int) (meets : String → Option Bool) : Prop where
  /-- An integer that is not above the number is found as such. -/
  atMost : i ≤ n → meets "[lte]" = some true
  /-- An integer that is not below the number is found as such. -/
  atLeast : n ≤ i → meets "[gte]" = some true
  /-- What is found below the number is below it. -/
  below : meets "[lt]" = some true → i < n
  /-- What is found above the number is above it. -/
  above : meets "[gt]" = some true → n < i
  /-- The number itself is found as equal. -/
  equal : i = n → meets "" = some true

/-- What holds of them on an integer that is not rounded. -/
structure ExactFilters (i n : Int) (meets : String → Option Bool) : Prop where
  /-- Equality without brackets. -/
  equal : meets "" = some (decide (i = n))
  /-- Inequality. -/
  notEqual : meets "[ne]" = some (decide (i ≠ n))
  /-- Below the number. -/
  below : meets "[lt]" = some (decide (i < n))
  /-- Not above the number. -/
  atMost : meets "[lte]" = some (decide (i ≤ n))
  /-- Above the number. -/
  above : meets "[gt]" = some (decide (n < i))
  /-- Not below the number. -/
  atLeast : meets "[gte]" = some (decide (n ≤ i))

/-- The relation that an operator asks for between an integer and a number. -/
theorem holds_compare (i n : Int) :
    Operator.equal.holds (some (compare i n)) = decide (i = n) ∧
      Operator.notEqual.holds (some (compare i n)) = decide (i ≠ n) ∧
      Operator.below.holds (some (compare i n)) = decide (i < n) ∧
      Operator.atMost.holds (some (compare i n)) = decide (i ≤ n) ∧
      Operator.above.holds (some (compare i n)) = decide (n < i) ∧
      Operator.atLeast.holds (some (compare i n)) = decide (n ≤ i) := by
  rcases Int.lt_trichotomy i n with below | rfl | above
  · rw [Int.compare_eq_lt.mpr below]
    simp [Operator.holds, below, Int.ne_of_lt below, Int.le_of_lt below, Int.lt_asymm below]
  · rw [Std.compare_self]
    simp [Operator.holds]
  · rw [Int.compare_eq_gt.mpr above]
    simp [Operator.holds, above, Int.ne_of_gt above, Int.le_of_lt above, Int.lt_asymm above]

/-- The six filters answer by one comparison. -/
structure Answering (order : Ordering) (meets : String → Option Bool) : Prop where
  /-- Equality without brackets. -/
  equal : meets "" = some (Operator.equal.holds (some order))
  /-- Inequality. -/
  notEqual : meets "[ne]" = some (Operator.notEqual.holds (some order))
  /-- Below. -/
  below : meets "[lt]" = some (Operator.below.holds (some order))
  /-- Not above. -/
  atMost : meets "[lte]" = some (Operator.atMost.holds (some order))
  /-- Above. -/
  above : meets "[gt]" = some (Operator.above.holds (some order))
  /-- Not below. -/
  atLeast : meets "[gte]" = some (Operator.atLeast.holds (some order))

section Answering

variable {i n : Int} {order : Ordering} {meets : String → Option Bool}

/-- Filters that answer by a comparison that never turns two numbers round are sound. -/
theorem Answering.sound (answering : Answering order meets) (atMost : i ≤ n → order ≠ .gt)
    (atLeast : n ≤ i → order ≠ .lt) : SoundFilters i n meets where
  atMost ordered := by
    rw [answering.atMost]
    simpa [Operator.holds] using atMost ordered
  atLeast ordered := by
    rw [answering.atLeast]
    simpa [Operator.holds] using atLeast ordered
  below found := by
    by_contra reversed
    rw [answering.below] at found
    have strict : order = .lt := by simpa [Operator.holds] using found
    exact atLeast (by omega) strict
  above found := by
    by_contra reversed
    rw [answering.above] at found
    have strict : order = .gt := by simpa [Operator.holds] using found
    exact atMost (by omega) strict
  equal same := by
    have level : order = .eq := by
      cases order with
      | lt => exact absurd rfl (atLeast (Int.le_of_eq same.symm))
      | eq => rfl
      | gt => exact absurd rfl (atMost (Int.le_of_eq same))
    rw [answering.equal, level]
    rfl

/-- Filters that answer by the comparison of the numbers are exact. -/
theorem Answering.exact (answering : Answering (compare i n) meets) : ExactFilters i n meets := by
  obtain ⟨equal, notEqual, below, atMost, above, atLeast⟩ := holds_compare i n
  constructor
  · rw [answering.equal, equal]
  · rw [answering.notEqual, notEqual]
  · rw [answering.below, below]
  · rw [answering.atMost, atMost]
  · rw [answering.above, above]
  · rw [answering.atLeast, atLeast]

end Answering

/-- The filters on an integer with a row of digits answer by how both compare after rounding. -/
theorem answering_meets? (column : Column) {text : String} (filled : text ≠ "")
    (numeric : ∀ c ∈ text.toList, c.isDigit = true) (i : Int64) :
    Answering (roundedCompare i text) fun suffix =>
      meets? (column.name ++ suffix) text (.integer i) := by
  have plain := Condition.ofParameter_name column text
  rw [← String.append_empty (s := column.name)] at plain
  have named {name suffix : String} {operator : Operator}
      (listed : (name, operator) ∈ Operator.suffixes)
      (brackets : suffix.toList = '[' :: name.toList ++ [']'])
      (single : operator.takesSet = false) :
      meets? (column.name ++ suffix) text (.integer i) =
        some (operator.holds (some (roundedCompare i text))) :=
    meets?_digits filled numeric i
      (Condition.ofParameter_append column listed brackets single text)
  exact ⟨meets?_digits filled numeric i plain,
    @named "ne" "[ne]" .notEqual (by decide) (by decide) rfl,
    @named "lt" "[lt]" .below (by decide) (by decide) rfl,
    @named "lte" "[lte]" .atMost (by decide) (by decide) rfl,
    @named "gt" "[gt]" .above (by decide) (by decide) rfl,
    @named "gte" "[gte]" .atLeast (by decide) (by decide) rfl⟩

/-- The value of a row of digits is a number to a query. A filter with it on an integer of 64 bits
finds what is at most or at least that number, and finds nothing wrongly below or above it; so the
number itself is found by equality. On an integer of less than 53 bits all six filters decide as the
two whole numbers compare, however large the number is. -/
theorem filters_of_digits (column : Column) {text : String} (filled : text ≠ "")
    (numeric : ∀ c ∈ text.toList, c.isDigit = true) (i : Int64) :
    let n : Int := Nat.ofDigitChars 10 text.toList 0
    let meets (suffix : String) := meets? (column.name ++ suffix) text (.integer i)
    (∃ x, Literal.ofText text = .number x) ∧ SoundFilters i.toInt n meets ∧
      (i.toInt.natAbs < Nat.pow 2 53 → ExactFilters i.toInt n meets) := by
  intro n meets
  have answering : Answering (roundedCompare i text) meets :=
    answering_meets? column filled numeric i
  refine ⟨⟨_, Literal.ofText_digits filled numeric⟩,
    answering.sound roundedCompare_ne_gt roundedCompare_ne_lt, fun small => ?_⟩
  have limit : Nat.pow 2 53 = 2 * Binary64.fractionCount := rfl
  rw [limit] at small
  have kept := Binary64.compare?_ofInt_of_small small n
  rw [Binary64.compare?_ofInt, Option.some.injEq] at kept
  change roundedCompare i text = compare i.toInt n at kept
  rw [kept] at answering
  exact answering.exact

/-- The greatest integer of 53 bits is below a number of twenty digits and finds itself behind
zeros. -/
theorem filters_of_digits_zeros :
    let i : Int64 := 9007199254740991
    let meets (text suffix : String) := meets? (Column.salary.name ++ suffix) text (.integer i)
    ExactFilters i.toInt 9007199254740991 (meets "00009007199254740991") ∧
      ExactFilters i.toInt 90071992547409920000 (meets "90071992547409920000") := by
  intro i meets
  have small : i.toInt.natAbs < Nat.pow 2 53 := by decide
  have itself := @filters_of_digits .salary "00009007199254740991" (by decide)
    (List.all_eq_true.mp (by decide)) i
  have larger := @filters_of_digits .salary "90071992547409920000" (by decide)
    (List.all_eq_true.mp (by decide)) i
  exact ⟨itself.2.2 small, larger.2.2 small⟩

end SalarySurvey.Query
