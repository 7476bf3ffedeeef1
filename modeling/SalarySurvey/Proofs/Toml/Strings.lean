import SalarySurvey.Proofs.Toml.Integers
import SalarySurvey.Toml.Text

/-!
# Written strings

A string stands between two quotes. A character in it stands for itself unless it is a quote, a
backslash or a control character other than the tab; these are escaped, by a letter or mark of
their own or by the digits of their code point, and so may all others be. No escape ends the
string, so it is read back up to its closing quote, if no third quote follows an empty one.
-/
namespace SalarySurvey.Toml

/-- The escapes of one character, with what they stand for. -/
def escapes : List (Char × Char) :=
  [('b', '\x08'), ('t', '\t'), ('n', '\n'), ('f', '\x0c'), ('r', '\r'), ('"', '"'), ('\\', '\\')]

/-- The escapes by code point, with their numbers of digits. -/
def pointEscapes : List (Char × Nat) := [('u', 4), ('U', 8)]

/-- A character that may stand for itself in a string or a comment. -/
def Printed (c : Char) : Prop := c = '\t' ∨ 0x20 ≤ c.toNat ∧ c.toNat ≠ 0x7F
  deriving Decidable

/-- The ways to write a character between quotes. -/
inductive WritesChar (c : Char) : List Char → Prop where
  /-- As itself. -/
  | itself (printed : Printed c) (noQuote : c ≠ '"') (noBackslash : c ≠ '\\') : WritesChar c [c]
  /-- By an escape of one character. -/
  | escape {name : Char} (listed : (name, c) ∈ escapes) : WritesChar c ['\\', name]
  /-- By its code point. -/
  | point {name : Char} {digits : List Char} (listed : (name, digits.length) ∈ pointEscapes)
    (places : Places 16 digits c.toNat) : WritesChar c ('\\' :: name :: digits)

/-- The ways to write a row of characters between quotes. -/
inductive WritesChars : List Char → List Char → Prop where
  /-- No characters. -/
  | nil : WritesChars [] []
  /-- A character and others. -/
  | cons {c : Char} {chars first others : List Char} (head : WritesChar c first)
    (tail : WritesChars chars others) : WritesChars (c :: chars) (first ++ others)

/-- The ways to write a string. -/
inductive WritesString (value : String) : List Char → Prop where
  /-- In quotes. -/
  | quotes {text : List Char} (chars : WritesChars value.toList text) :
    WritesString value ('"' :: text ++ ['"'])

section Characters

variable {c : Char} {digits text rest : List Char}

theorem isTextChar_iff : isTextChar c = true ↔ Printed c := by
  simp [isTextChar, Printed]

/-- The digits of a code point are read as its character. -/
theorem pointOf?_of_places (places : Places 16 digits c.toNat) : Text.pointOf? digits = some c := by
  obtain ⟨values, related, sum⟩ := places
  have read : digits.mapM Text.hexDigit? = some values := by
    clear sum
    induction related with
    | nil => rfl
    | cons digit _ ih => simp [(digit.value_eq (Nat.le_refl 16)).2, ih]
  have point : values.foldl (fun n digit => 16 * n + digit) 0 = c.toNat := by
    rw [← sum, Nat.ofDigits_eq_foldr, List.foldr_reverse]
    simp only [Nat.add_comm]
    rfl
  have valid : c.toNat.isValidChar := c.valid
  simp [Text.pointOf?, read, point, valid]

/-- An escape is read as its character. -/
theorem escape?_of_listed {name : Char} (listed : (name, c) ∈ escapes) :
    escape? (name :: rest) = some (c, rest) := by
  simp only [escapes, List.mem_cons, Prod.mk.injEq, List.not_mem_nil, or_false] at listed
  rcases listed with ⟨rfl, rfl⟩ | ⟨rfl, rfl⟩ | ⟨rfl, rfl⟩ | ⟨rfl, rfl⟩ | ⟨rfl, rfl⟩ | ⟨rfl, rfl⟩ |
    ⟨rfl, rfl⟩ <;> rfl

/-- So is one by code point. -/
theorem escape?_of_places {name : Char} (listed : (name, digits.length) ∈ pointEscapes)
    (places : Places 16 digits c.toNat) : escape? (name :: (digits ++ rest)) = some (c, rest) := by
  have read : point? digits.length (digits ++ rest) = some (c, rest) := by
    simp [point?, pointOf?_of_places places]
  simp only [pointEscapes, List.mem_cons, Prod.mk.injEq, List.not_mem_nil, or_false] at listed
  rcases listed with ⟨rfl, width⟩ | ⟨rfl, width⟩ <;> (rw [width] at read; exact read)

/-- A written character is read in front of the rest of a string. -/
theorem WritesChar.quotedRest?_eq (writes : WritesChar c text) (fuel : Nat) :
    quotedRest? (fuel + 1) (text ++ rest) =
      (quotedRest? fuel rest).map fun (chars, rest) => (c :: chars, rest) := by
  have escaped {tail : List Char} (read : escape? tail = some (c, rest)) :
      quotedRest? (fuel + 1) ('\\' :: tail) =
        (quotedRest? fuel rest).map fun (chars, rest) => (c :: chars, rest) := by
    cases others : quotedRest? fuel rest <;> simp [quotedRest?, read, others]
  cases writes with
  | itself printed noQuote noBackslash =>
    have kept := isTextChar_iff.mpr printed
    cases others : quotedRest? fuel rest <;>
      simp [quotedRest?, noQuote, noBackslash, kept, others]
  | escape listed => exact escaped (escape?_of_listed listed)
  | point listed places => exact escaped (escape?_of_places listed places)

/-- A written character begins with no quote. -/
theorem WritesChar.exists_cons (writes : WritesChar c text) :
    ∃ first others, text = first :: others ∧ first ≠ '"' := by
  cases writes with
  | itself _ noQuote _ => exact ⟨c, [], rfl, noQuote⟩
  | escape _ => exact ⟨'\\', _, rfl, by decide⟩
  | point _ _ => exact ⟨'\\', _, rfl, by decide⟩

end Characters

section Strings

variable {chars text rest : List Char} {value : String}

/-- Written characters are read up to the closing quote. -/
theorem WritesChars.quotedRest?_eq (writes : WritesChars chars text) {fuel : Nat}
    (enough : text.length < fuel) :
    quotedRest? fuel (text ++ '"' :: rest) = some (chars, rest) := by
  induction writes generalizing fuel with
  | nil =>
    cases fuel with
    | zero => contradiction
    | succ fuel => rfl
  | cons head _ ih =>
    cases fuel with
    | zero => contradiction
    | succ fuel =>
      obtain ⟨first, others, rfl, -⟩ := head.exists_cons
      rw [List.length_append, List.length_cons] at enough
      rw [List.append_assoc, head.quotedRest?_eq, ih (by omega), Option.map_some]

/-- A quote that no two others follow opens a string of one line. -/
theorem string?_quote {tail : List Char} (single : ∀ more, tail ≠ '"' :: '"' :: more) :
    string? ('"' :: tail) = quoted? tail := by
  unfold string?
  split
  · next a b c rest same =>
    obtain ⟨rfl, rfl⟩ := List.cons.inj same
    have notThree : ¬('"' = '"' ∧ b = '"' ∧ c = '"') := by
      rintro ⟨-, rfl, rfl⟩
      exact single rest rfl
    have noApostrophe : ¬('"' = apostrophe ∧ b = apostrophe ∧ c = apostrophe) :=
      fun three => absurd three.1 (by decide)
    rw [if_neg notThree, if_neg noApostrophe]
    rfl
  · rfl

/-- Two quotes stand at the front of written characters and the closing quote only if there are no
characters and a quote follows. -/
theorem WritesChars.ne_quotes (writes : WritesChars chars text) (ends : ∀ c ∈ rest.head?, c ≠ '"')
    (more : List Char) : text ++ '"' :: rest ≠ '"' :: '"' :: more := by
  intro same
  cases writes with
  | nil =>
    obtain rfl := (List.cons.inj same).2
    exact ends '"' rfl rfl
  | cons head _ =>
    obtain ⟨first, others, rfl, noQuote⟩ := head.exists_cons
    exact noQuote (List.cons.inj same).1

/-- A written string is read back in front of anything but a quote. -/
theorem WritesString.string?_eq (writes : WritesString value text)
    (ends : ∀ c ∈ rest.head?, c ≠ '"') :
    string? (text ++ rest) = some (value.toList, rest) := by
  obtain @⟨inner, chars⟩ := writes
  have whole : '"' :: inner ++ ['"'] ++ rest = '"' :: (inner ++ '"' :: rest) := by simp
  rw [whole, string?_quote (chars.ne_quotes ends), quoted?, chars.quotedRest?_eq]
  rw [List.length_append]
  omega

/-- Every character can be written between quotes. -/
theorem exists_writesChar (c : Char) : ∃ text, WritesChar c text := by
  by_cases special : c = '"' ∨ c = '\\'
  · have listed : (c, c) ∈ escapes := by rcases special with rfl | rfl <;> decide
    exact ⟨_, .escape listed⟩
  · rw [not_or] at special
    by_cases printed : Printed c
    · exact ⟨_, .itself printed special.1 special.2⟩
    · -- What is not printed is below 128, so its last two digits are enough.
      have small : c.toNat < 128 := by
        rw [Printed, not_or] at printed
        omega
      have places : Places 16 ['0', '0', (c.toNat / 16).digitChar, (c.toNat % 16).digitChar]
          c.toNat := by
        refine ⟨[0, 0, c.toNat / 16, c.toNat % 16], ?_, ?_⟩
        · refine .cons ⟨by decide, .inl rfl⟩ (.cons ⟨by decide, .inl rfl⟩
            (.cons ⟨by omega, .inl rfl⟩ (.cons ⟨by omega, .inl rfl⟩ .nil)))
        · simp [Nat.ofDigits]
          omega
      have listed : ('u', 4) ∈ pointEscapes := by decide
      exact ⟨_, .point listed places⟩

/-- Every string can be written. -/
theorem exists_writesString (value : String) : ∃ text, WritesString value text := by
  have each (chars : List Char) : ∃ text, WritesChars chars text := by
    induction chars with
    | nil => exact ⟨_, .nil⟩
    | cons c chars ih =>
      obtain ⟨first, head⟩ := exists_writesChar c
      obtain ⟨others, tail⟩ := ih
      exact ⟨_, .cons head tail⟩
  obtain ⟨text, chars⟩ := each value.toList
  exact ⟨_, .quotes chars⟩

end Strings

end SalarySurvey.Toml
