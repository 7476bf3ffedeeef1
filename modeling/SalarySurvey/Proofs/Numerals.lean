import SalarySurvey.Json.Reader
import SalarySurvey.Proofs.Decimals
import SalarySurvey.Proofs.Digits

/-!
# Written numbers are read back

A number is read from its sign, the digits around its point and its power of ten, as long as what
follows does not continue it. The digits of an integer give the integer. The digits of a real
number are those of a shortest decimal, which rounds back to the number wherever its point is put:
behind a zero that is added, among the digits, behind zeros, or behind the first digit with a power
of ten.
-/
namespace SalarySurvey.Json

variable {rest whole fraction : List Char}

/-- What does not continue a number: the end of the text, or a character with no part in one. -/
def Apart (rest : List Char) : Prop :=
  ∀ c ∈ rest.head?, c.isDigit = false ∧ c ≠ '.' ∧ c ≠ 'e' ∧ c ≠ 'E'

/-- The digits of a whole number: at least one, and no zero in front of others. -/
structure Leads (digits : List Char) : Prop where
  /-- There is a digit. -/
  filled : digits ≠ []
  /-- All characters are digits. -/
  numeric : ∀ c ∈ digits, c.isDigit = true
  /-- Only the zero itself starts with a zero. -/
  leading : digits.head? = some '0' → digits = ['0']

/-- The digits of a fraction behind the point, which stands only in front of some. -/
def point (fraction : List Char) : List Char :=
  if fraction = [] then [] else '.' :: fraction

/-- A power of ten with its sign. -/
def power : Option Int → List Char
  | none => []
  | some n => 'e' :: (if n < 0 then '-' else '+') :: Nat.toDigits 10 n.natAbs

/-- Digits are taken up to the first other character. -/
theorem digits?_append {digits : List Char} (filled : digits ≠ [])
    (numeric : ∀ c ∈ digits, c.isDigit = true) (ends : ∀ c ∈ rest.head?, c.isDigit = false) :
    digits? (digits ++ rest) = some (digits, rest) := by
  simp [digits?, takeWhile_append_stop numeric ends, dropWhile_append_stop numeric ends, filled]

/-- A whole number is read back. -/
theorem whole?_append (leads : Leads whole) (ends : ∀ c ∈ rest.head?, c.isDigit = false) :
    whole? (whole ++ rest) = some (whole, rest) := by
  have plain : ¬(whole.head? = some '0' ∧ whole ≠ ['0']) :=
    fun zero => zero.2 (leads.leading zero.1)
  simp [whole?, digits?_append leads.filled leads.numeric ends, plain]

/-- An integer is its sign and its size. -/
theorem signed_natAbs (i : Int) :
    (if decide (i < 0) = true then -(i.natAbs : Int) else i.natAbs) = i := by
  simp only [decide_eq_true_eq]
  split <;> omega

/-- A power of ten is read back. -/
theorem power?_append (ends : Apart rest) (exponent : Option Int) :
    power? (power exponent ++ rest) = some (exponent, rest) := by
  cases exponent with
  | none =>
    cases rest with
    | nil => rfl
    | cons c rest =>
      obtain ⟨-, -, lower, upper⟩ := ends c rfl
      simp [power, power?, lower, upper]
  | some n =>
    have read := digits?_append Nat.toDigits_ne_nil (@Numeral.isDigit_of_mem_toDigits n.natAbs)
      fun c listed => (ends c listed).1
    have signed :
        Numeral.sign ((if n < 0 then '-' else '+') :: (Nat.toDigits 10 n.natAbs ++ rest)) =
          (decide (n < 0), Nat.toDigits 10 n.natAbs ++ rest) := by
      by_cases negative : n < 0 <;> simp [negative, Numeral.sign]
    simp only [power, List.cons_append, power?, true_or, ↓reduceIte, signed, read,
      Option.bind_eq_bind, Option.bind_some, Numeral.value_toDigits, signed_natAbs]

/-- A power of ten, if there is one, starts with no digit and no point. -/
theorem head?_power (ends : Apart rest) (exponent : Option Int) :
    ∀ c ∈ (power exponent ++ rest).head?, c.isDigit = false ∧ c ≠ '.' := by
  intro c listed
  cases exponent with
  | none => exact ⟨(ends c listed).1, (ends c listed).2.1⟩
  | some n =>
    obtain rfl : 'e' = c := by simpa [power] using listed
    decide

/-- The digits behind a point are read back. -/
theorem fraction?_append (numeric : ∀ c ∈ fraction, c.isDigit = true)
    (ends : ∀ c ∈ rest.head?, c.isDigit = false ∧ c ≠ '.') :
    fraction? (point fraction ++ rest) = some (fraction, rest) := by
  by_cases filled : fraction = []
  · subst filled
    cases rest with
    | nil => rfl
    | cons c rest =>
      have other : c ≠ '.' := (ends c rfl).2
      unfold point fraction?
      split
      · next same => exact absurd (List.cons.inj same).1 other
      · rfl
  · have read := digits?_append filled numeric fun c listed => (ends c listed).1
    simpa [point, filled, fraction?] using read

/-- A whole number does not start with a minus. -/
theorem minus_append (leads : Leads whole) : minus (whole ++ rest) = (false, whole ++ rest) := by
  obtain ⟨c, others, rfl⟩ := List.exists_cons_of_ne_nil leads.filled
  have digit : c.isDigit = true := leads.numeric c List.mem_cons_self
  unfold minus
  split
  · next sign =>
    obtain rfl := (List.cons.inj sign).1
    contradiction
  · rfl

/-- The digits of a positive number, or some of its first ones. -/
structure Significant (digits : List Char) : Prop where
  /-- There is a digit. -/
  filled : digits ≠ []
  /-- All characters are digits. -/
  numeric : ∀ c ∈ digits, c.isDigit = true
  /-- The first one is not zero. -/
  nonzero : digits.head? ≠ some '0'

namespace Significant

variable {digits : List Char}

theorem leads (significant : Significant digits) : Leads digits :=
  ⟨significant.filled, significant.numeric, fun zero => absurd zero significant.nonzero⟩

/-- More digits may follow. -/
theorem append (significant : Significant digits) {others : List Char}
    (numeric : ∀ c ∈ others, c.isDigit = true) : Significant (digits ++ others) := by
  refine ⟨by simp [significant.filled], ?_, ?_⟩
  · intro c listed
    rcases List.mem_append.mp listed with front | back
    · exact significant.numeric c front
    · exact numeric c back
  · obtain ⟨c, rest, rfl⟩ := List.exists_cons_of_ne_nil significant.filled
    exact significant.nonzero

/-- The first ones are kept. -/
theorem take (significant : Significant digits) {count : Nat} (some : 0 < count) :
    Significant (digits.take count) := by
  refine ⟨?_, fun c listed => significant.numeric c (List.mem_of_mem_take listed), ?_⟩
  · rw [Ne, List.take_eq_nil_iff, not_or]
    exact ⟨by omega, significant.filled⟩
  · rw [List.head?_take, if_neg (by omega)]
    exact significant.nonzero

end Significant

/-- The digits of a positive number do not start with a zero. -/
theorem significant_toDigits {n : Nat} (positive : 0 < n) : Significant (Nat.toDigits 10 n) := by
  refine ⟨Nat.toDigits_ne_nil, Numeral.isDigit_of_mem_toDigits, ?_⟩
  intro zero
  obtain ⟨others, digits⟩ : ∃ others, Nat.toDigits 10 n = '0' :: others := by
    simpa [List.head?_eq_some_iff] using zero
  -- Behind the zero there are too few digits for the number.
  have small : Numeral.value others < Nat.pow 10 others.length :=
    Numeral.value_lt fun c listed =>
      Numeral.isDigit_of_mem_toDigits c (digits ▸ List.mem_cons_of_mem '0' listed)
  have large : Nat.pow 10 others.length ≤ n := by
    apply Binary64.pow_le_of_length _ positive
    rw [digits, List.length_cons]
    exact Nat.lt_succ_self _
  have same : Numeral.value others = n := by
    rw [← Numeral.value_toDigits n, digits]
    rfl
  omega

theorem leads_zero : Leads ['0'] :=
  ⟨List.cons_ne_nil _ _, @Numeral.isDigit_of_mem_zeros 1, fun _ => rfl⟩

/-- The digits of a natural number are those of a whole number. -/
theorem leads_toDigits (n : Nat) : Leads (Nat.toDigits 10 n) := by
  cases n with
  | zero => exact leads_zero
  | succ n => exact (significant_toDigits (Nat.succ_pos n)).leads

/-- Digits that stand, behind the minus of a negative number, for a value. -/
def Spells (negative : Bool) (digits : List Char) (value : Json) : Prop :=
  ∃ whole fraction exponent, digits = whole ++ (point fraction ++ power exponent) ∧
    Leads whole ∧ (∀ c ∈ fraction, c.isDigit = true) ∧
    ofNumeral negative whole fraction exponent = value

/-- A spelled number is read back. -/
theorem Spells.number?_eq {negative : Bool} {digits : List Char} {value : Json}
    (spells : Spells negative digits value) (ends : Apart rest) :
    number? ((if negative then '-' :: digits else digits) ++ rest) = some (value, rest) := by
  obtain ⟨whole, fraction, exponent, rfl, leads, numeric, rfl⟩ := spells
  have signed : minus ((if negative then '-' :: (whole ++ (point fraction ++ power exponent))
      else whole ++ (point fraction ++ power exponent)) ++ rest) =
      (negative, whole ++ (point fraction ++ (power exponent ++ rest))) := by
    cases negative with
    | true => simp [minus]
    | false => simp [minus_append leads]
  have behind := head?_power ends exponent
  have between : ∀ c ∈ (point fraction ++ (power exponent ++ rest)).head?, c.isDigit = false := by
    intro c listed
    by_cases filled : fraction = []
    · rw [point, if_pos filled] at listed
      exact (behind c listed).1
    · obtain rfl : '.' = c := by simpa [point, filled] using listed
      rfl
  simp [number?, signed, whole?_append leads between, fraction?_append numeric behind,
    power?_append ends]

/-- An integer is spelled by its digits. -/
theorem spells_integer (i : Int) : Spells (i < 0) (Nat.toDigits 10 i.natAbs) (.integer i) := by
  refine ⟨Nat.toDigits 10 i.natAbs, [], none, by simp [point, power], leads_toDigits _,
    by simp, ?_⟩
  rw [ofNumeral, if_pos ⟨rfl, rfl⟩, Numeral.value_toDigits, signed_natAbs]

section Reals

variable {x : Binary64} (positive : 0 < x.magnitude) (finite : x.isFinite = true)

include positive finite

/-- Digits around a point, with or without a power of ten, stand for a real number if their decimal
rounds to it. -/
theorem spells_real (fraction : List Char) (exponent : Option Int) (leads : Leads whole)
    (numeric : ∀ c ∈ fraction, c.isDigit = true) (real : fraction ≠ [] ∨ exponent ≠ none)
    (rounds : Binary64.Decimal.RoundsTo
      ⟨Numeral.value (whole ++ fraction), exponent.getD 0 - fraction.length⟩ x.magnitude) :
    Spells x.negative (whole ++ (point fraction ++ power exponent)) (.real x) := by
  refine ⟨whole, fraction, exponent, rfl, leads, numeric, ?_⟩
  have split : ¬(fraction = [] ∧ exponent = none) := by
    rintro ⟨noFraction, noExponent⟩
    rcases real with some | some <;> contradiction
  rw [ofNumeral, if_neg split, Binary64.ofDecimal_eq positive finite rounds]

variable {digits : List Char} (significant : Significant digits)

include significant

/-- Zeros may follow the digits, and a zero behind the point. -/
theorem spells_whole (zeros : Nat)
    (rounds : Binary64.Decimal.RoundsTo ⟨Numeral.value digits, zeros⟩ x.magnitude) :
    Spells x.negative (digits ++ List.replicate zeros '0' ++ ['.', '0']) (.real x) := by
  have scaled : Numeral.value (digits ++ List.replicate zeros '0' ++ ['0']) =
      Numeral.value digits * Nat.pow 10 (zeros + 1) := by
    rw [List.append_assoc, ← List.replicate_succ', Numeral.value_append_zeros]
  apply spells_real positive finite ['0'] none
    (significant.append Numeral.isDigit_of_mem_zeros).leads leads_zero.numeric
    (.inl leads_zero.filled)
  rw [scaled]
  exact rounds.tenths

/-- The point may stand among the digits. -/
theorem spells_among {first : Nat} (front : 0 < first) (back : first < digits.length)
    (rounds : Binary64.Decimal.RoundsTo ⟨Numeral.value digits, first - digits.length⟩
      x.magnitude) :
    Spells x.negative (digits.take first ++ '.' :: digits.drop first) (.real x) := by
  have filled : digits.drop first ≠ [] := by
    rw [Ne, List.drop_eq_nil_iff]
    omega
  have text : '.' :: digits.drop first = point (digits.drop first) ++ power none := by
    simp [point, power, filled]
  have exponent : (none.getD 0 - (digits.drop first).length : Int) = first - digits.length := by
    rw [List.length_drop, Option.getD_none]
    omega
  rw [text]
  apply spells_real positive finite _ none (significant.take front).leads
    (fun c listed => significant.numeric c (List.mem_of_mem_drop listed)) (.inl filled)
  rwa [List.take_append_drop, exponent]

/-- The digits may follow a zero, the point and more zeros. -/
theorem spells_below (zeros : Nat)
    (rounds : Binary64.Decimal.RoundsTo
      ⟨Numeral.value digits, -(digits.length + zeros : Int)⟩ x.magnitude) :
    Spells x.negative ('0' :: '.' :: List.replicate zeros '0' ++ digits) (.real x) := by
  have filled : List.replicate zeros '0' ++ digits ≠ [] := by simp [significant.filled]
  have text : '0' :: '.' :: List.replicate zeros '0' ++ digits =
      ['0'] ++ (point (List.replicate zeros '0' ++ digits) ++ power none) := by
    simp [point, power, filled]
  have numeric : ∀ c ∈ List.replicate zeros '0' ++ digits, c.isDigit = true := by
    intro c listed
    rcases List.mem_append.mp listed with zero | digit
    · exact Numeral.isDigit_of_mem_zeros c zero
    · exact significant.numeric c digit
  have value : Numeral.value (['0'] ++ (List.replicate zeros '0' ++ digits)) =
      Numeral.value digits := by
    rw [← List.append_assoc]
    exact Numeral.value_zeros_append (zeros + 1) digits
  have exponent : (none.getD 0 - (List.replicate zeros '0' ++ digits).length : Int) =
      -(digits.length + zeros : Int) := by
    rw [List.length_append, List.length_replicate, Option.getD_none]
    omega
  rw [text]
  apply spells_real positive finite _ none leads_zero numeric (.inl filled)
  rwa [value, exponent]

/-- The point may stand behind the first digit, with a power of ten behind the last one. -/
theorem spells_scientific (exponent : Int)
    (rounds : Binary64.Decimal.RoundsTo ⟨Numeral.value digits, exponent⟩ x.magnitude) :
    Spells x.negative (Binary64.scientific digits exponent) (.real x) := by
  obtain ⟨first, others, rfl⟩ := List.exists_cons_of_ne_nil significant.filled
  have lead : Significant [first] := significant.take Nat.one_pos
  have text : Binary64.scientific (first :: others) exponent =
      [first] ++ (point others ++ power (some ((first :: others).length + exponent - 1))) := by
    cases others <;> simp [Binary64.scientific, point, power]
  have left : ((some ((first :: others).length + exponent - 1)).getD 0 - others.length : Int) =
      exponent := by
    rw [List.length_cons, Option.getD_some]
    omega
  rw [text]
  apply spells_real positive finite _ _ lead.leads
    (fun c listed => significant.numeric c (List.mem_cons_of_mem first listed)) (.inr (by simp))
  rwa [List.singleton_append, left]

end Reals

/-- The shortest decimal of a number, written out or with a power of ten, stands for the number. -/
theorem spells_writeMagnitude {x : Binary64} (positive : 0 < x.magnitude)
    (finite : x.isFinite = true) :
    Spells x.negative (Binary64.jsonStyle.writeMagnitude x.magnitude) (.real x) := by
  have rounds := Binary64.roundsTo_shortest positive Binary64.jsonStyle.tie
  have significant := significant_toDigits (rounds.digits_pos positive)
  have size := Numeral.value_toDigits (Binary64.shortest Binary64.jsonStyle.tie x.magnitude).digits
  unfold Binary64.Style.writeMagnitude
  dsimp only
  generalize Binary64.shortest Binary64.jsonStyle.tie x.magnitude = decimal at *
  obtain ⟨digits, exponent⟩ := decimal
  dsimp only at *
  generalize Nat.toDigits 10 digits = written at *
  subst size
  -- Written out there are three places for the point; each keeps the exponent of the decimal.
  split
  · unfold Binary64.Style.writeOut
    dsimp only
    split
    · next whole =>
      obtain ⟨zeros, rfl⟩ := Int.eq_ofNat_of_zero_le whole
      exact spells_whole positive finite significant zeros rounds
    · next negative =>
      split
      · next inside =>
        have last : ((written.length + exponent).toNat : Int) - written.length = exponent := by
          omega
        exact spells_among positive finite significant (by omega) (by omega) (by rwa [last])
      · next outside =>
        have last : -(written.length + (-(written.length + exponent)).toNat : Int) = exponent := by
          omega
        exact spells_below positive finite significant _ (by rwa [last])
  · exact spells_scientific positive finite significant exponent rounds

/-- Every finite number is spelled. -/
theorem exists_spells_writeReal {x : Binary64} (finite : x.isFinite = true) :
    ∃ digits, writeReal x = (if x.negative then '-' :: digits else digits) ∧
      Spells x.negative digits (.real x) := by
  have bounded : x.magnitude < Binary64.infinityMagnitude := by
    simpa [Binary64.isFinite] using finite
  have defined : x.isNaN = false := decide_eq_false (by omega)
  have text : writeReal x = Binary64.jsonStyle.write x := if_pos finite
  rw [text, Binary64.Style.write, defined]
  simp only [Bool.false_eq_true, ↓reduceIte, if_neg (Nat.ne_of_lt bounded)]
  refine ⟨_, rfl, ?_⟩
  by_cases none : x.magnitude = 0
  · rw [if_pos none]
    refine ⟨['0'], ['0'], Option.none, rfl, leads_zero, leads_zero.numeric, ?_⟩
    obtain ⟨negative, magnitude, _⟩ := x
    obtain rfl : magnitude = 0 := none
    cases negative <;> rfl
  · rw [if_neg none]
    exact spells_writeMagnitude (Nat.pos_of_ne_zero none) finite

end SalarySurvey.Json
