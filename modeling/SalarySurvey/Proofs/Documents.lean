import SalarySurvey.Json.Reader
import SalarySurvey.Proofs.Numerals

/-!
# Written texts are read back

Reading the written text of a JSON value gives the value, if every number in it is finite. The
readers are followed part by part, each for any text behind its part: an escape gives its
character, so no character of a string can end it, and a list gives its elements, since every
element is followed by a comma or the closing mark, and neither continues a number.
-/
namespace SalarySurvey

namespace Json

variable {rest : List Char}

section Strings

/-- The readers know the hexadecimal digits that are written. -/
theorem hexDigit?_hexDigit {n : Nat} (small : n < 16) : Text.hexDigit? (hexDigit n) = some n := by
  have each : ∀ n < 16, Text.hexDigit? (Nat.digitChar n) = some n := by decide
  exact each n small

/-- A control character is read back from its code unit. -/
theorem codeUnits?_control {c : Char} (control : c.toNat < 0x20) :
    codeUnits? ('0' :: '0' :: hexDigit (c.toNat / 16) :: hexDigit (c.toNat % 16) :: rest) =
      some (c, rest) := by
  have zero : Text.hexDigit? '0' = some 0 := by decide
  have high := hexDigit?_hexDigit (show c.toNat / 16 < 16 by omega)
  have low := hexDigit?_hexDigit (show c.toNat % 16 < 16 by omega)
  have sum : 16 * (c.toNat / 16) + c.toNat % 16 = c.toNat := Nat.div_add_mod c.toNat 16
  have valid : c.toNat.isValidChar := c.valid
  simp [codeUnits?, codeUnit?, zero, high, low, sum, valid]

/-- An escape in a string stands for the character that it names. -/
theorem characters?_backslash {text : List Char} {c : Char}
    (read : escaped? text = some (c, rest)) (fuel : Nat) :
    characters? (fuel + 1) ('\\' :: text) =
      (characters? fuel rest).map fun (text, rest) => (c :: text, rest) := by
  cases others : characters? fuel rest <;> simp [characters?, read, others]

/-- A written character of a string is read back. -/
theorem characters?_escape (fuel : Nat) (c : Char) :
    characters? (fuel + 1) (escape c ++ rest) =
      (characters? fuel rest).map fun (text, rest) => (c :: text, rest) := by
  by_cases special : c ∈ ['"', '\\', '\n', '\r', '\t', '\x08', '\x0c']
  · simp only [List.mem_cons, List.not_mem_nil, or_false] at special
    rcases special with rfl | rfl | rfl | rfl | rfl | rfl | rfl <;>
      exact characters?_backslash rfl fuel
  · simp only [List.mem_cons, List.not_mem_nil, or_false, not_or] at special
    simp only [escape, special, ↓reduceIte]
    by_cases control : c.toNat < 0x20
    · have read : escaped? ('u' :: '0' :: '0' :: hexDigit (c.toNat / 16) ::
          hexDigit (c.toNat % 16) :: rest) = some (c, rest) := codeUnits?_control control
      rw [if_pos control]
      exact characters?_backslash read fuel
    · rw [if_neg control]
      cases others : characters? fuel rest <;> simp [characters?, special, control, others]

theorem length_escape_pos (c : Char) : 0 < (escape c).length := by
  unfold escape
  repeat' split
  all_goals exact Nat.succ_pos _

/-- A written string is read back behind its opening quote. -/
theorem string?_quote (value : String) :
    string? (value.toList.flatMap escape ++ '"' :: rest) = some (value, rest) := by
  have characters (text : List Char) (fuel : Nat)
      (enough : (text.flatMap escape).length < fuel) :
      characters? fuel (text.flatMap escape ++ '"' :: rest) = some (text, rest) := by
    induction text generalizing fuel with
    | nil =>
      cases fuel with
      | zero => contradiction
      | succ fuel => rfl
    | cons c text ih =>
      cases fuel with
      | zero => contradiction
      | succ fuel =>
        have some := length_escape_pos c
        rw [List.flatMap_cons, List.length_append] at enough
        rw [List.flatMap_cons, List.append_assoc, characters?_escape, ih fuel (by omega),
          Option.map_some]
  rw [string?, characters, Option.map_some]
  · simp only [String.ofList_toList]
  · simp only [List.length_append, List.length_cons]
    omega

end Strings

section Lists

variable {α : Type} {element? : Reader α} {close : Char}

/-- A text from which a reader takes an element, whatever follows it, and which starts neither with
a space nor with a closing mark. -/
structure Readable (element? : Reader α) (text : List Char) (element : α) : Prop where
  /-- The first character is one of the text. -/
  begins : ∃ c others, text = c :: others ∧ isSpace c = false ∧ c ≠ ']' ∧ c ≠ '\x7d'
  /-- The element is read back. -/
  reads : ∀ rest, Apart rest → element? (text ++ rest) = some (element, rest)

/-- Texts with commas between them, and a closing mark. -/
def joined (close : Char) : List (List Char) → List Char
  | [] => [close]
  | first :: others => first ++ others.flatMap (',' :: ·) ++ [close]

/-- What stands behind an element of a list does not continue a number. -/
theorem apart_others (closes : close = ']' ∨ close = '\x7d') (texts : List (List Char)) :
    Apart (texts.flatMap (',' :: ·) ++ close :: rest) := by
  intro c listed
  cases texts with
  | nil =>
    obtain rfl : close = c := by simpa using listed
    rcases closes with rfl | rfl <;> decide
  | cons text texts =>
    obtain rfl : ',' = c := by simpa using listed
    decide

/-- The elements of a list behind the first one are read back. -/
theorem others?_joined (closes : close = ']' ∨ close = '\x7d') {text : α → List Char}
    {elements : List α} (each : ∀ element ∈ elements, Readable element? (text element) element)
    {fuel : Nat} (enough : elements.length < fuel) :
    others? element? close fuel ((elements.map text).flatMap (',' :: ·) ++ close :: rest) =
      some (elements, rest) := by
  induction elements generalizing fuel with
  | nil =>
    cases fuel with
    | zero => contradiction
    | succ fuel => rcases closes with rfl | rfl <;> rfl
  | cons element elements ih =>
    cases fuel with
    | zero => contradiction
    | succ fuel =>
      rw [List.forall_mem_cons] at each
      have first := each.1.reads _ (@apart_others rest close closes (elements.map text))
      have later := ih each.2 (Nat.lt_of_succ_lt_succ enough)
      have further : ',' ≠ close := by rcases closes with rfl | rfl <;> decide
      have comma (tail : List Char) : skipSpaces (',' :: tail) = ',' :: tail := rfl
      simp [others?, comma, further, first, later]

/-- There are no more texts than characters in them and the commas. -/
theorem length_le_flatMap (texts : List (List Char)) :
    texts.length ≤ (texts.flatMap (',' :: ·)).length := by
  induction texts with
  | nil => exact Nat.le_refl _
  | cons text texts ih =>
    simp only [List.flatMap_cons, List.length_append, List.length_cons]
    omega

/-- The elements of a list are read back. -/
theorem list?_joined (closes : close = ']' ∨ close = '\x7d') {text : α → List Char}
    {elements : List α} (each : ∀ element ∈ elements, Readable element? (text element) element) :
    list? element? close (joined close (elements.map text) ++ rest) = some (elements, rest) := by
  cases elements with
  | nil => rcases closes with rfl | rfl <;> rfl
  | cons element elements =>
    rw [List.forall_mem_cons] at each
    obtain ⟨c, tail, shape, solid, notBracket, notBrace⟩ := each.1.begins
    have further : c ≠ close := by rcases closes with rfl | rfl <;> assumption
    have first := each.1.reads _ (@apart_others rest close closes (elements.map text))
    have enough : elements.length <
        ((elements.map text).flatMap (',' :: ·) ++ close :: rest).length := by
      have some := length_le_flatMap (elements.map text)
      rw [List.length_map] at some
      rw [List.length_append, List.length_cons]
      omega
    have later := @others?_joined rest _ _ _ closes _ _ each.2 _ enough
    have whole : joined close ((element :: elements).map text) ++ rest =
        c :: (tail ++ ((elements.map text).flatMap (',' :: ·) ++ close :: rest)) := by
      simp [joined, shape]
    rw [shape, List.cons_append] at first
    rw [whole]
    -- The reader counts what is left as fuel, which simp must not expand.
    generalize (elements.map text).flatMap (',' :: ·) ++ close :: rest = behind at first later
    simp [list?, skipSpaces, solid, further, first, later]

/-- The text of an element is shorter than that of the list. -/
theorem length_lt_joined {element : α} {elements : List α} (listed : element ∈ elements)
    (text : α → List Char) (close : Char) :
    (text element).length < (joined close (elements.map text)).length := by
  obtain ⟨before, behind, rfl⟩ := List.append_of_mem listed
  cases before with
  | nil =>
    simp only [List.nil_append, List.map_cons, joined, List.length_append, List.length_singleton]
    omega
  | cons first before =>
    simp only [List.cons_append, List.map_cons, List.map_append, joined, List.flatMap_append,
      List.flatMap_cons, List.length_append, List.length_cons]
    omega

end Lists

/-- The text of a member of an object. -/
def writeMember (member : String × Json) : List Char :=
  quote member.1 ++ ':' :: member.2.write

/-- An array is written as its items between brackets. -/
theorem write_array (items : List Json) :
    write (.array items) = '[' :: joined ']' (items.map write) := by
  have others (items : List Json) :
      writeItems items = (items.map write).flatMap (',' :: ·) ++ [']'] := by
    induction items with
    | nil => rfl
    | cons item items ih => simp [writeItems, ih]
  cases items with
  | nil => rfl
  | cons item items => simp [write, joined, others]

/-- An object is written as its members between braces. -/
theorem write_object (members : List (String × Json)) :
    write (.object members) = '\x7b' :: joined '\x7d' (members.map writeMember) := by
  have others (members : List (String × Json)) :
      writeMembers members = (members.map writeMember).flatMap (',' :: ·) ++ ['\x7d'] := by
    induction members with
    | nil => rfl
    | cons member members ih => simp [writeMembers, writeMember, ih]
  cases members with
  | nil => rfl
  | cons member members => simp [write, writeMember, joined, others]

/-- A value whose text loses nothing: every number in it is finite. -/
inductive Exact : Json → Prop where
  /-- A string is written with all its characters. -/
  | string (value : String) : Exact (.string value)
  /-- An integer is written with all its digits. -/
  | integer (value : Int) : Exact (.integer value)
  /-- A finite number has a decimal that rounds to it. -/
  | real {value : Binary64} (finite : value.isFinite = true) : Exact (.real value)
  /-- A truth value is a word. -/
  | boolean (value : Bool) : Exact (.boolean value)
  /-- A list is exact if its items are. -/
  | array {items : List Json} (each : ∀ item ∈ items, Exact item) : Exact (.array items)
  /-- An object is exact if its values are; its names always are. -/
  | object {members : List (String × Json)} (each : ∀ member ∈ members, Exact member.2) :
    Exact (.object members)

/-- A number starts with a minus or a digit, and nothing else does. -/
theorem Spells.exists_cons {negative : Bool} {digits : List Char} {value : Json}
    (spells : Spells negative digits value) :
    ∃ c others, (if negative then '-' :: digits else digits) = c :: others ∧
      ∀ d : Char, d.isDigit = false → d ≠ '-' → c ≠ d := by
  obtain ⟨whole, fraction, exponent, rfl, leads, -, -⟩ := spells
  cases negative with
  | true => exact ⟨'-', _, rfl, fun d _ other => other.symm⟩
  | false =>
    obtain ⟨c, others, rfl⟩ := List.exists_cons_of_ne_nil leads.filled
    have digit : c.isDigit = true := leads.numeric c List.mem_cons_self
    refine ⟨c, _, rfl, ?_⟩
    rintro d other - rfl
    rw [digit] at other
    contradiction

/-- A spelled number is a value. -/
theorem Spells.readable {negative : Bool} {digits : List Char} {value : Json}
    (spells : Spells negative digits value) (fuel : Nat) :
    Readable (value? (fuel + 1)) (if negative then '-' :: digits else digits) value := by
  obtain ⟨c, others, shape, starts⟩ := spells.exists_cons
  have solid : isSpace c = false := by
    simp [isSpace, starts]
  refine ⟨⟨c, others, shape, solid, starts _ (by decide) (by decide),
    starts _ (by decide) (by decide)⟩, ?_⟩
  intro rest apart
  have read := spells.number?_eq apart
  rw [shape, List.cons_append] at read ⊢
  have front : skipSpaces (c :: (others ++ rest)) = c :: (others ++ rest) := by
    simp [skipSpaces, solid]
  have other {d : Char} {tail : List Char} (unlike : d.isDigit = false ∧ d ≠ '-') :
      c :: (others ++ rest) ≠ d :: tail :=
    fun same => starts d unlike.1 unlike.2 (List.cons.inj same).1
  -- Every other kind of value starts with a mark or a letter of its own.
  rw [value?, front]
  split
  · next mark => exact absurd mark (other (by decide))
  · next mark => exact absurd mark (other (by decide))
  · next mark => exact absurd mark (other (by decide))
  · next mark => exact absurd mark (other (by decide))
  · next mark => exact absurd mark (other (by decide))
  · exact read

/-- A written string is read back with its quotes. -/
theorem readable_quote (value : String) (fuel : Nat) :
    Readable (value? (fuel + 1)) (quote value) (.string value) := by
  refine ⟨⟨'"', _, rfl, by decide, by decide, by decide⟩, ?_⟩
  intro rest _
  have step : value? (fuel + 1) (quote value ++ rest) =
      (string? (value.toList.flatMap escape ++ ['"'] ++ rest)).map
        fun read => (.string read.1, read.2) := rfl
  rw [step, List.append_assoc, List.singleton_append, string?_quote, Option.map_some]

/-- A member is read back if its value is. -/
theorem Readable.member {element? : Reader Json} {name : String} {value : Json}
    (readable : Readable element? value.write value) :
    Readable (member? element?) (writeMember (name, value)) (name, value) := by
  refine ⟨⟨'"', _, rfl, by decide, by decide, by decide⟩, ?_⟩
  intro rest apart
  have text : writeMember (name, value) ++ rest =
      '"' :: (name.toList.flatMap escape ++ '"' :: ':' :: (value.write ++ rest)) := by
    simp [writeMember, quote]
  have front (tail : List Char) : skipSpaces ('"' :: tail) = '"' :: tail := rfl
  have colon (tail : List Char) : skipSpaces (':' :: tail) = ':' :: tail := rfl
  simp [text, member?, front, string?_quote, colon, readable.reads rest apart]

/-- The written text of an exact value is read back. -/
theorem Exact.readable {json : Json} (exact : Exact json) {fuel : Nat}
    (enough : json.write.length ≤ fuel) : Readable (value? (fuel + 1)) json.write json := by
  induction exact generalizing fuel with
  | string value => exact readable_quote value fuel
  | integer value => simpa [write, writeInteger] using (spells_integer value).readable fuel
  | real finite =>
    obtain ⟨digits, text, spells⟩ := exists_spells_writeReal finite
    rw [write, text]
    exact spells.readable fuel
  | boolean value =>
    cases value <;> exact ⟨⟨_, _, rfl, by decide, by decide, by decide⟩, fun rest _ => rfl⟩
  | @array items each ih =>
    -- The bracket takes one step of the fuel, and an item has less text than the list.
    rw [write_array, List.length_cons] at enough
    obtain ⟨fuel, rfl⟩ : ∃ less, fuel = less + 1 := ⟨fuel - 1, by omega⟩
    have inner : ∀ item ∈ items, Readable (value? (fuel + 1)) item.write item := by
      intro item listed
      have shorter := length_lt_joined listed write ']'
      exact ih item listed (by omega)
    rw [write_array]
    refine ⟨⟨'[', _, rfl, by decide, by decide, by decide⟩, ?_⟩
    intro rest _
    have step : value? (fuel + 1 + 1) ('[' :: joined ']' (items.map write) ++ rest) =
        (list? (value? (fuel + 1)) ']' (joined ']' (items.map write) ++ rest)).map
          fun read => (.array read.1, read.2) := rfl
    rw [step, list?_joined (.inl rfl) inner, Option.map_some]
  | @object members each ih =>
    rw [write_object, List.length_cons] at enough
    obtain ⟨fuel, rfl⟩ : ∃ less, fuel = less + 1 := ⟨fuel - 1, by omega⟩
    have inner : ∀ member ∈ members,
        Readable (member? (value? (fuel + 1))) (writeMember member) member := by
      rintro ⟨name, value⟩ listed
      have shorter := length_lt_joined listed writeMember '\x7d'
      have longer : value.write.length ≤ (writeMember (name, value)).length := by
        simp only [writeMember, List.length_append, List.length_cons]
        omega
      have enough : value.write.length ≤ fuel := by omega
      exact (ih _ listed enough).member
    rw [write_object]
    refine ⟨⟨'\x7b', _, rfl, by decide, by decide, by decide⟩, ?_⟩
    intro rest _
    have step : value? (fuel + 1 + 1) ('\x7b' :: joined '\x7d' (members.map writeMember) ++ rest) =
        (list? (member? (value? (fuel + 1))) '\x7d'
          (joined '\x7d' (members.map writeMember) ++ rest)).map
            fun read => (.object read.1, read.2) := rfl
    rw [step, list?_joined (.inr rfl) inner, Option.map_some]

/-- The text of a value says that value. -/
theorem Exact.read?_write {json : Json} (exact : Exact json) : read? json.write = some json := by
  have whole := (exact.readable (Nat.le_refl _)).reads [] (by simp [Apart])
  rw [List.append_nil] at whole
  rw [read?, whole]
  rfl

end Json

end SalarySurvey
