import SalarySurvey.Calendar.Layout
import Mathlib.Data.List.Induction
import Mathlib.Data.List.TakeWhile

/-!
# Digits and blanks

A padded number consists of digits, has its width when it fits, and keeps its value. A reader of
digits takes a row of them back when the row is as long as the reader goes, or when no digit
follows. Digits are not blank, so what skips blanks stands still in front of them.
-/
namespace SalarySurvey

section Fronts

variable {α : Type} {p : α → Bool} {front rest : List α}

/-- What is taken while it is of a kind ends in front of the first other one. -/
theorem takeWhile_append_stop (inside : ∀ a ∈ front, p a = true)
    (stops : ∀ a ∈ rest.head?, p a = false) : (front ++ rest).takeWhile p = front := by
  rw [List.takeWhile_append_of_pos inside]
  cases rest with
  | nil => exact List.append_nil front
  | cons a rest => rw [List.takeWhile_cons_of_neg (by simp [stops a rfl]), List.append_nil]

/-- What is dropped while it is of a kind leaves all from the first other one on. -/
theorem dropWhile_append_stop (inside : ∀ a ∈ front, p a = true)
    (stops : ∀ a ∈ rest.head?, p a = false) : (front ++ rest).dropWhile p = rest := by
  rw [List.dropWhile_append_of_pos inside]
  cases rest with
  | nil => rfl
  | cons a rest => exact List.dropWhile_cons_of_neg (by simp [stops a rfl])

end Fronts

namespace Text

/-- The code point ranges of the ASCII digits, letters and the underscore. -/
def plainRanges : List (Nat × Nat) :=
  [(0x0030, 0x0039), (0x0041, 0x005A), (0x005F, 0x005F), (0x0061, 0x007A)]

/-- Digits, letters and the underscore are not blank. -/
theorem isBlank_of_plain {c : Char} (plain : inRanges plainRanges c.toNat = true) :
    isBlank c = false := by
  simp only [inRanges, plainRanges, List.any_cons, List.any_nil, Bool.or_false, Bool.or_eq_true,
    Bool.and_eq_true, decide_eq_true_eq] at plain
  simp [isBlank, inRanges, blankRanges]
  omega

/-- The code point of a digit. -/
theorem toNat_of_isDigit {c : Char} (digit : c.isDigit = true) :
    48 ≤ c.toNat ∧ c.toNat ≤ 57 := by
  simp only [Char.isDigit, Bool.and_eq_true, decide_eq_true_eq] at digit
  exact ⟨digit.1, digit.2⟩

/-- Digits are not blank. -/
theorem isBlank_of_isDigit {c : Char} (digit : c.isDigit = true) : isBlank c = false := by
  have point := toNat_of_isDigit digit
  apply isBlank_of_plain
  simp [inRanges, plainRanges, point.1, point.2]

/-- Nothing is skipped in front of a character that is not blank. -/
theorem trimStart_cons {c : Char} (solid : isBlank c = false) (rest : List Char) :
    trimStart (c :: rest) = c :: rest := by
  simp [trimStart, solid]

/-- Trimming keeps a text without blanks. -/
theorem trimChars_of_forall {text : List Char} (solid : ∀ c ∈ text, isBlank c = false) :
    trimChars text = text := by
  have front : trimStart text = text := by
    rw [trimStart, List.dropWhile_eq_self_iff]
    intro positive
    simpa using solid _ (List.getElem_mem positive)
  have back : text.reverse.dropWhile isBlank = text.reverse := by
    rw [List.dropWhile_eq_self_iff]
    intro positive
    simpa using solid _ (List.mem_reverse.mp (List.getElem_mem positive))
  rw [trimChars, front, trimEnd, back, List.reverse_reverse]

/-- Trimming drops blanks at both ends. -/
theorem trimChars_blanks {front back : List Char} (frontBlank : ∀ c ∈ front, isBlank c = true)
    (backBlank : ∀ c ∈ back, isBlank c = true) (text : List Char) :
    trimChars (front ++ text ++ back) = trimChars text := by
  have behind (kept : List Char) : trimEnd (kept ++ back) = trimEnd kept := by
    have reversed : ∀ c ∈ back.reverse, isBlank c = true := fun c listed =>
      backBlank c (List.mem_reverse.mp listed)
    rw [trimEnd, List.reverse_append, List.dropWhile_append_of_pos reversed]
    rfl
  have ahead : trimStart (front ++ text ++ back) = trimStart (text ++ back) := by
    rw [List.append_assoc]
    exact List.dropWhile_append_of_pos frontBlank
  rw [trimChars, ahead, trimChars]
  by_cases empty : trimStart text = []
  · have none_left : trimStart (text ++ back) = [] := by
      rw [trimStart, List.dropWhile_eq_nil_iff] at empty ⊢
      intro c listed
      rcases List.mem_append.mp listed with inside | outside
      · exact empty c inside
      · exact backBlank c outside
    rw [none_left, empty]
  · have kept : trimStart (text ++ back) = trimStart text ++ back := by
      rw [trimStart, List.dropWhile_append]
      exact if_neg fun none_left => empty (List.isEmpty_iff.mp none_left)
    rw [kept, behind]

/-- A text with characters that are not blank at both ends. -/
structure Solid (text : List Char) : Prop where
  /-- It begins with one. -/
  first : ∃ c rest, text = c :: rest ∧ isBlank c = false
  /-- It ends with one. -/
  last : ∃ before c, text = before ++ [c] ∧ isBlank c = false

section Solid

variable {front back : List Char}

/-- Two such texts make one, whatever stands between them. -/
theorem Solid.around (ahead : Solid front) (between : List Char) (behind : Solid back) :
    Solid (front ++ (between ++ back)) := by
  obtain ⟨c, rest, rfl, first⟩ := ahead.first
  obtain ⟨before, d, rfl, last⟩ := behind.last
  exact ⟨⟨c, rest ++ (between ++ (before ++ [d])), rfl, first⟩,
    c :: rest ++ (between ++ before), d, by simp, last⟩

/-- Trimming keeps a text that neither begins nor ends with a blank. -/
theorem Solid.trimChars_eq {text : List Char} (solid : Solid text) : trimChars text = text := by
  have front : trimStart text = text := by
    obtain ⟨c, rest, rfl, first⟩ := solid.first
    exact trimStart_cons first rest
  have back : trimEnd text = text := by
    obtain ⟨before, c, rfl, last⟩ := solid.last
    rw [trimEnd, List.reverse_concat, List.dropWhile_cons_of_neg (by simp [last]),
      List.reverse_cons, List.reverse_reverse]
  rw [trimChars, front, back]

end Solid

end Text

namespace Numeral

/-- The value of a row of digits is that of the library. -/
theorem value_eq (digits : List Char) : value digits = Nat.ofDigitChars 10 digits 0 := by
  rw [Nat.ofDigitChars_eq_foldl]
  rfl

theorem value_toDigits (n : Nat) : value (Nat.toDigits 10 n) = n := by
  rw [value_eq, Nat.ofDigitChars_ten_toDigits]

/-- Zeros in front keep the value. -/
theorem value_zeros_append (zeros : Nat) (digits : List Char) :
    value (List.replicate zeros '0' ++ digits) = value digits := by
  rw [value_eq, value_eq, Nat.ofDigitChars_append, Nat.ofDigitChars_replicate_zero, Nat.mul_zero]

/-- Zeros behind scale the value. -/
theorem value_append_zeros (digits : List Char) (zeros : Nat) :
    value (digits ++ List.replicate zeros '0') = value digits * Nat.pow 10 zeros := by
  rw [value_eq, value_eq, Nat.ofDigitChars_append, Nat.ofDigitChars_replicate_zero, Nat.mul_comm]
  rfl

theorem isDigit_of_mem_zeros {count : Nat} :
    ∀ c ∈ List.replicate count '0', c.isDigit = true := by
  intro c listed
  rw [List.eq_of_mem_replicate listed]
  rfl

theorem isDigit_of_mem_toDigits {n : Nat} : ∀ c ∈ Nat.toDigits 10 n, c.isDigit = true :=
  fun _ listed => Nat.isDigit_of_mem_toDigits (by decide) (by decide) listed

/-- A digit is below ten. -/
theorem digit_lt {c : Char} (numeric : c.isDigit = true) : digit c < 10 := by
  have point := Text.toNat_of_isDigit numeric
  have zero : '0'.toNat = 48 := rfl
  rw [digit, zero]
  omega

/-- A row of digits has a value of no more digits. -/
theorem value_lt {digits : List Char} (numeric : ∀ c ∈ digits, c.isDigit = true) :
    value digits < Nat.pow 10 digits.length := by
  induction digits using List.reverseRecOn with
  | nil => decide
  | append_singleton digits c ih =>
    have last := digit_lt (numeric c (by simp))
    have front := ih fun d listed => numeric d (List.mem_append_left [c] listed)
    have added : value (digits ++ [c]) = 10 * value digits + digit c := by
      simp [value]
    rw [added, List.length_append, List.length_singleton]
    show 10 * value digits + digit c < Nat.pow 10 digits.length * 10
    omega

end Numeral

namespace Timestamp

variable {width n : Nat}

/-- Padding keeps the value. -/
theorem value_padded : Numeral.value (padded width n) = n := by
  rw [padded, Numeral.value_zeros_append, Numeral.value_toDigits]

/-- A padded number consists of digits. -/
theorem isDigit_of_mem_padded : ∀ c ∈ padded width n, c.isDigit = true := by
  intro c listed
  rcases List.mem_append.mp listed with zero | digit
  · exact Numeral.isDigit_of_mem_zeros c zero
  · exact Numeral.isDigit_of_mem_toDigits c digit

/-- A number that fits its width is padded to it. -/
theorem length_padded (wide : 0 < width) (fits : n < Nat.pow 10 width) :
    (padded width n).length = width := by
  have bounded := (Nat.length_toDigits_le_iff (b := 10) (by decide) wide).mpr fits
  simp only [padded, List.length_append, List.length_replicate]
  omega

/-- A padded number has a digit. -/
theorem padded_ne_nil : padded width n ≠ [] := by
  simp [padded, Nat.toDigits_ne_nil]

end Timestamp

namespace Layout

/-- A text that starts with a row of digits starts with a digit. -/
theorem isDigit_of_append_eq_cons {digits rest tail : List Char} {c : Char} (filled : digits ≠ [])
    (numeric : ∀ c ∈ digits, c.isDigit = true) (split : digits ++ rest = c :: tail) :
    c.isDigit = true := by
  cases digits with
  | nil => contradiction
  | cons d digits =>
    rw [List.cons_append, List.cons.injEq] at split
    rw [← split.1]
    exact numeric d List.mem_cons_self

/-- Nothing is skipped in front of digits. -/
theorem trimStart_digits {digits : List Char} (filled : digits ≠ [])
    (numeric : ∀ c ∈ digits, c.isDigit = true) (rest : List Char) :
    Text.trimStart (digits ++ rest) = digits ++ rest := by
  cases text : digits ++ rest with
  | nil => rfl
  | cons c tail =>
    have first := isDigit_of_append_eq_cons filled numeric text
    exact Text.trimStart_cons (Text.isBlank_of_isDigit first) tail

/-- A row of digits is read back when the reader goes no further, or no digit follows. -/
theorem digitsUpTo_append {most : Nat} {digits rest : List Char}
    (numeric : ∀ c ∈ digits, c.isDigit = true) (fits : digits.length ≤ most)
    (ends : digits.length = most ∨ ∀ c ∈ rest.head?, c.isDigit = false) :
    digitsUpTo most (digits ++ rest) = (digits, rest) := by
  induction digits generalizing most with
  | nil =>
    cases most with
    | zero => rfl
    | succ most =>
      cases rest with
      | nil => rfl
      | cons c rest =>
        have other : c.isDigit = false := by simpa using ends
        simp [digitsUpTo, other]
  | cons c digits ih =>
    cases most with
    | zero => simp at fits
    | succ most =>
      have first : c.isDigit = true := numeric c List.mem_cons_self
      have others : ∀ d ∈ digits, d.isDigit = true := fun d listed =>
        numeric d (List.mem_cons_of_mem c listed)
      have read := ih others (by simpa using fits) (by simpa using ends)
      simp [digitsUpTo, first, read]

/-- What a reader of digits takes are digits. -/
theorem isDigit_of_mem_digitsUpTo {most : Nat} {text : List Char} :
    ∀ c ∈ (digitsUpTo most text).1, c.isDigit = true := by
  induction most, text using digitsUpTo.induct with
  | case1 text => simp [digitsUpTo]
  | case2 most => simp [digitsUpTo]
  | case3 most c rest numeric digits after taken ih =>
    simpa [digitsUpTo, numeric] using ih
  | case4 most c rest other => simp [digitsUpTo, other]

/-- What a reader of digits leaves is the end of the text. -/
theorem digitsUpTo_suffix (most : Nat) (text : List Char) : (digitsUpTo most text).2 <:+ text := by
  induction most, text using digitsUpTo.induct with
  | case1 text => simp [digitsUpTo]
  | case2 most => simp [digitsUpTo]
  | case3 most c rest numeric digits after taken ih =>
    have shorter : after <:+ rest := by simpa [taken] using ih
    simpa [digitsUpTo, numeric, taken] using shorter.trans (List.suffix_cons c rest)
  | case4 most c rest other => simp [digitsUpTo, other]

/-- A number of a fixed width has no more digits. -/
theorem lt_of_exactly? {width n : Nat} {text rest : List Char}
    (found : exactly? width text = some (n, rest)) : n < Nat.pow 10 width := by
  unfold exactly? at found
  dsimp only at found
  split at found
  · next length =>
    have numeric := Numeral.value_lt (@isDigit_of_mem_digitsUpTo width text)
    rw [length] at numeric
    simp only [Option.some.injEq, Prod.mk.injEq] at found
    rwa [found.1] at numeric
  · contradiction

end Layout

end SalarySurvey
