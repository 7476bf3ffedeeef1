import SalarySurvey.Proofs.Numerals
import SalarySurvey.Toml.Scalar
import Mathlib.Data.List.Forall2
import Mathlib.Data.Nat.Digits.Defs

/-!
# Written integers

An integer is written in decimal digits with or without a sign, or in the digits of another base
behind the mark of the base; underscores may stand between any two digits. Every such text is read
as its integer if that has 64 bits, and as nothing else: it has no colon and no hyphen behind its
front, so it is no moment, and no point, power or name of a real number.
-/
namespace SalarySurvey.Toml

/-- A digit of a base with its value. Letters stand for the values above nine, in either case. -/
structure IsDigit (base : Nat) (c : Char) (value : Nat) : Prop where
  /-- The value is below the base. -/
  below : value < base
  /-- The character is that of the value. -/
  written : c = value.digitChar ∨ c = value.digitChar.toUpper

instance (base : Nat) (c : Char) (value : Nat) : Decidable (IsDigit base c value) :=
  decidable_of_iff (value < base ∧ (c = value.digitChar ∨ c = value.digitChar.toUpper))
    ⟨fun ⟨below, written⟩ => ⟨below, written⟩, fun ⟨below, written⟩ => ⟨below, written⟩⟩

/-- The number that digits of a base stand for, the first digit counting most. -/
def Places (base : Nat) (digits : List Char) (n : Nat) : Prop :=
  ∃ values, List.Forall₂ (IsDigit base) digits values ∧ Nat.ofDigits base values.reverse = n

/-- Digits with an underscore between some of them. -/
inductive Grouped : List Char → List Char → Prop where
  /-- No underscore. -/
  | run {digits : List Char} (filled : digits ≠ []) : Grouped digits digits
  /-- An underscore behind some digits. -/
  | apart {run digits text : List Char} (filled : run ≠ []) (behind : Grouped digits text) :
    Grouped (run ++ digits) (run ++ '_' :: text)

/-- A sign, true for a minus. -/
inductive Sign : Bool → List Char → Prop where
  /-- None. -/
  | absent : Sign false []
  /-- A plus. -/
  | plus : Sign false ['+']
  /-- A minus. -/
  | minus : Sign true ['-']

/-- The marks of the bases other than ten. -/
def bases : List (Char × Nat) := [('x', 16), ('o', 8), ('b', 2)]

/-- The ways to write an integer. -/
inductive WritesInteger : Int → List Char → Prop where
  /-- In decimal digits without a zero in front of others. -/
  | decimal {negative : Bool} {sign digits text : List Char} {n : Nat}
    (signed : Sign negative sign) (places : Places 10 digits n) (grouped : Grouped digits text)
    (leading : text.head? = some '0' → text = ['0']) :
    WritesInteger (if negative then -(n : Int) else n) (sign ++ text)
  /-- In digits of another base. -/
  | based {mark : Char} {base n : Nat} {digits text : List Char} (listed : (mark, base) ∈ bases)
    (places : Places base digits n) (grouped : Grouped digits text) :
    WritesInteger n ('0' :: mark :: text)

section Digits

variable {base n value : Nat} {c : Char} {digits text : List Char}

/-- What holds of all characters of a base holds of each digit. -/
theorem IsDigit.all (digit : IsDigit base c value) (property : Char → Nat → Prop)
    (each : ∀ v < base, property v.digitChar v ∧ property v.digitChar.toUpper v) :
    property c value := by
  rcases digit.written with rfl | rfl
  · exact (each value digit.below).1
  · exact (each value digit.below).2

/-- The readers know the values of digits. -/
theorem IsDigit.value_eq (digit : IsDigit base c value) (small : base ≤ 16) :
    digitValue c = value ∧ Text.hexDigit? c = some value := by
  have wide : IsDigit 16 c value := ⟨Nat.lt_of_lt_of_le digit.below small, digit.written⟩
  exact wide.all (fun c v => digitValue c = v ∧ Text.hexDigit? c = some v) (by decide)

/-- A digit is a letter or a decimal digit. -/
theorem IsDigit.isAlphanum (digit : IsDigit base c value) (small : base ≤ 16) :
    c.isAlphanum = true := by
  have wide : IsDigit 16 c value := ⟨Nat.lt_of_lt_of_le digit.below small, digit.written⟩
  exact wide.all (fun c _ => c.isAlphanum = true) (by decide)

/-- A digit of base ten has the value of a decimal digit. -/
theorem IsDigit.decimal (digit : IsDigit 10 c value) :
    c.isDigit = true ∧ Numeral.digit c = value :=
  digit.all (fun c v => c.isDigit = true ∧ Numeral.digit c = v) (by decide)

/-- Digits of a base are read one after the other. -/
theorem Places.foldl_eq (places : Places base digits n) {read : Char → Nat}
    (each : ∀ c v, IsDigit base c v → read c = v) :
    digits.foldl (fun n c => base * n + read c) 0 = n := by
  obtain ⟨values, related, rfl⟩ := places
  rw [Nat.ofDigits_eq_foldr, List.foldr_reverse]
  suffices same : ∀ first, digits.foldl (fun n c => base * n + read c) first =
      values.foldl (fun n v => v + base * n) first from same 0
  induction related with
  | nil => exact fun _ => rfl
  | cons digit _ ih =>
    intro first
    rw [List.foldl_cons, List.foldl_cons, each _ _ digit, Nat.add_comm]
    exact ih _

/-- What holds of the digits of a base holds of all digits of a number. -/
theorem Places.forall (places : Places base digits n) {property : Char → Prop}
    (each : ∀ c v, IsDigit base c v → property c) : ∀ c ∈ digits, property c := by
  obtain ⟨values, related, -⟩ := places
  induction related with
  | nil => exact fun _ listed => absurd listed List.not_mem_nil
  | cons digit _ ih => exact List.forall_mem_cons.mpr ⟨each _ _ digit, ih⟩

/-- A decimal digit is a digit of base ten. -/
theorem isDigit_digit (numeric : c.isDigit = true) : IsDigit 10 c (Numeral.digit c) := by
  have below := Numeral.digit_lt numeric
  have points : ∀ v < 10, v.digitChar.toNat = v + '0'.toNat := by decide
  refine ⟨below, .inl (Char.toNat_inj.mp ?_)⟩
  have point := Text.toNat_of_isDigit numeric
  rw [points _ below, Numeral.digit]
  exact (Nat.sub_add_cancel point.1).symm

/-- Decimal digits stand for their value. -/
theorem places_value (numeric : ∀ c ∈ digits, c.isDigit = true) :
    Places 10 digits (Numeral.value digits) := by
  have related : List.Forall₂ (IsDigit 10) digits (digits.map Numeral.digit) := by
    rw [List.forall₂_map_right_iff, List.forall₂_same]
    exact fun c listed => isDigit_digit (numeric c listed)
  have places : Places 10 digits _ := ⟨_, related, rfl⟩
  rwa [← places.foldl_eq fun _ _ digit => digit.decimal.2] at places

/-- The groups between the underscores make up the digits. -/
theorem Grouped.splitOn_eq (grouped : Grouped digits text) (plain : '_' ∉ digits) :
    ∃ groups, text.splitOn '_' = groups ∧ (∀ group ∈ groups, group ≠ []) ∧
      groups.flatten = digits := by
  induction grouped with
  | @run digits filled =>
    refine ⟨[digits], List.splitOn_eq_singleton plain, ?_, List.flatten_singleton⟩
    simpa using filled
  | @apart run digits text filled _ ih =>
    rw [List.mem_append, not_or] at plain
    obtain ⟨groups, split, each, whole⟩ := ih plain.2
    refine ⟨run :: groups, ?_, List.forall_mem_cons.mpr ⟨filled, each⟩, ?_⟩
    · rw [List.splitOn_append_cons_self_of_not_mem plain.1, split]
    · rw [List.flatten_cons, whole]

/-- Digits are read without their underscores. -/
theorem Grouped.digits?_eq (grouped : Grouped digits text) {isDigit : Char → Bool}
    (numeric : ∀ c ∈ digits, isDigit c = true) (plain : '_' ∉ digits) :
    digits? isDigit text = some digits := by
  obtain ⟨groups, split, filled, rfl⟩ := grouped.splitOn_eq plain
  have each : groups.all (fun group => !group.isEmpty && group.all isDigit) = true := by
    rw [List.all_eq_true]
    intro group listed
    have own : group.all isDigit = true := by
      rw [List.all_eq_true]
      exact fun c inside => numeric c (List.mem_flatten.mpr ⟨group, listed, inside⟩)
    simp [filled group listed, own]
  rw [digits?, split, if_pos each]

/-- A text of digits has digits and underscores only. -/
theorem Grouped.mem (grouped : Grouped digits text) : ∀ c ∈ text, c = '_' ∨ c ∈ digits := by
  induction grouped with
  | run _ => exact fun _ listed => .inr listed
  | apart _ _ ih =>
    intro c listed
    rw [List.mem_append, List.mem_cons] at listed
    rw [List.mem_append]
    rcases listed with front | rfl | back
    · exact .inr (.inl front)
    · exact .inl rfl
    · exact (ih c back).imp_right .inr

/-- A text of digits begins with a digit. -/
theorem Grouped.exists_cons (grouped : Grouped digits text) :
    ∃ c rest, text = c :: rest ∧ c ∈ digits := by
  cases grouped with
  | run filled =>
    obtain ⟨c, rest, rfl⟩ := List.exists_cons_of_ne_nil filled
    exact ⟨c, rest, rfl, List.mem_cons_self⟩
  | apart filled _ =>
    obtain ⟨c, rest, rfl⟩ := List.exists_cons_of_ne_nil filled
    exact ⟨c, _, rfl, List.mem_cons_self⟩

end Digits

section Words

variable {text : List Char}

/-- A text without a hyphen behind its front is no date. -/
theorem date?_eq_none (plain : '-' ∉ text.tail) : date? text = none := by
  unfold date?
  split
  · simp at plain
  · rfl

/-- A text without a colon is no time of day. -/
theorem time?_eq_none (plain : ':' ∉ text) : time? text = none := by
  have hour : (twoDigits? 24 text).bind (after? ':') = none := by
    match text with
    | [] | [_] => rfl
    | a :: b :: rest =>
      rw [twoDigits?]
      split
      · cases rest with
        | nil => rfl
        | cons c rest =>
          have other : c ≠ ':' := by
            rintro rfl
            simp at plain
          simp [after?, other]
      · rfl
  rw [time?, hour]
  rfl

/-- A text with neither is no moment. -/
theorem moment?_eq_none (hyphen : '-' ∉ text.tail) (colon : ':' ∉ text) :
    moment? text = none := by
  rw [moment?, date?_eq_none hyphen, time?_eq_none colon]
  rfl

/-- A number is not real if its digits are followed by no point and no power. -/
theorem decimal?_eq_none {negative : Bool} {whole : List Char}
    (signed : Numeral.sign text = (negative, whole))
    (plain : ∀ c ∈ whole, isExponentMark c = false ∧ c ≠ '.') : decimal? text = none := by
  have mantissa : whole.takeWhile (fun c => !isExponentMark c) = whole := by
    rw [List.takeWhile_eq_self_iff]
    intro c listed
    simp [(plain c listed).1]
  have exponent : whole.dropWhile (fun c => !isExponentMark c) = [] := by
    rw [List.dropWhile_eq_nil_iff]
    intro c listed
    simp [(plain c listed).1]
  have fraction : whole.dropWhile (· != '.') = [] := by
    rw [List.dropWhile_eq_nil_iff]
    intro c listed
    simpa using (plain c listed).2
  rw [decimal?, signed]
  dsimp only
  rw [mantissa, exponent, fraction]
  cases natural? (whole.takeWhile (· != '.')) <;> rfl

/-- Nor is it if the mark of a base stands in front of its digits. -/
theorem decimal?_mark {mark : Char} {base : Nat} (listed : (mark, base) ∈ bases) :
    decimal? ('0' :: mark :: text) = none := by
  have other : isExponentMark mark = false ∧ mark ≠ '.' ∧ mark ≠ '_' ∧ mark.isDigit = false := by
    simp only [bases, List.mem_cons, Prod.mk.injEq, List.not_mem_nil, or_false] at listed
    rcases listed with ⟨rfl, -⟩ | ⟨rfl, -⟩ | ⟨rfl, -⟩ <;> decide
  obtain ⟨noPower, noPoint, noUnderscore, noDigit⟩ := other
  -- The first group has the mark in it, wherever underscores stand behind it.
  have unread (rest : List Char) : natural? ('0' :: mark :: rest) = none := by
    obtain ⟨group, groups, split⟩ := List.exists_cons_of_ne_nil (List.splitOn_ne_nil '_' rest)
    simp [natural?, digits?, List.splitOn_cons_eq_if_modifyHead, split, noUnderscore, noDigit]
  have zero : isExponentMark '0' = false := rfl
  simp [decimal?, Numeral.sign, zero, noPower, noPoint, unread]

/-- What begins with a digit, behind its sign, and is no decimal number is not real. -/
theorem real?_eq_none {negative : Bool} {c : Char} {rest : List Char}
    (signed : Numeral.sign text = (negative, c :: rest)) (digit : c.isDigit = true)
    (unread : decimal? text = none) : real? text = none := by
  have other (d : Char) (plain : d.isDigit = false) : c ≠ d := by
    rintro rfl
    rw [digit] at plain
    contradiction
  have names : c :: rest ≠ "inf".toList ∧ c :: rest ≠ "nan".toList :=
    ⟨fun same => other 'i' rfl (List.cons.inj same).1,
      fun same => other 'n' rfl (List.cons.inj same).1⟩
  rw [real?, signed]
  dsimp only
  rw [if_neg names.1, if_neg names.2, unread]

end Words

section Integers

variable {i : Int} {n base : Nat} {negative : Bool} {sign digits text rest : List Char}
  {mark : Char}

/-- A sign is read in front of a digit. -/
theorem Sign.sign_eq (signed : Sign negative sign) {c : Char} (rest : List Char)
    (digit : c.isDigit = true) :
    Numeral.sign (sign ++ c :: rest) = (negative, c :: rest) := by
  cases signed with
  | absent =>
    rw [List.nil_append, Numeral.sign]
    · rintro tail ⟨⟩
      contradiction
    · rintro tail ⟨⟩
      contradiction
  | plus => rfl
  | minus => rfl

/-- Every integer can be written. -/
theorem exists_writesInteger (i : Int) : ∃ text, WritesInteger i text := by
  have leads := Json.leads_toDigits i.natAbs
  have places : Places 10 (Nat.toDigits 10 i.natAbs) i.natAbs := by
    have valued := places_value leads.numeric
    rwa [Numeral.value_toDigits] at valued
  have signed : ∃ sign, Sign (decide (i < 0)) sign := by
    cases decide (i < 0)
    · exact ⟨_, .absent⟩
    · exact ⟨_, .minus⟩
  obtain ⟨sign, signed⟩ := signed
  have writes := WritesInteger.decimal signed places (.run leads.filled) leads.leading
  rw [Json.signed_natAbs] at writes
  exact ⟨_, writes⟩

/-- An underscore is no digit. -/
theorem Places.not_mem_underscore (places : Places base digits n) (small : base ≤ 16) :
    '_' ∉ digits := by
  intro listed
  have letter := places.forall (fun _ _ digit => digit.isAlphanum small) '_' listed
  contradiction

/-- Decimal digits with a sign have no mark of a base behind a zero. -/
theorem Grouped.ne_mark (grouped : Grouped digits text) (signed : Sign negative sign)
    (places : Places 10 digits n) (letter : mark.isAlpha = true) :
    sign ++ text ≠ '0' :: mark :: rest := by
  intro same
  have listed : mark ∈ sign ++ text := by
    rw [same]
    simp
  rcases List.mem_append.mp listed with inSign | inText
  · cases signed <;> simp at inSign <;> subst inSign <;> contradiction
  · rcases grouped.mem mark inText with rfl | inDigits
    · contradiction
    · have other : mark.isAlpha = false := places.forall
        (fun _ _ digit => digit.all (fun c _ => c.isAlpha = false) (by decide)) mark inDigits
      rw [other] at letter
      contradiction

/-- Decimal digits are read with their sign. -/
theorem integer?_decimal (signed : Sign negative sign) (places : Places 10 digits n)
    (grouped : Grouped digits text) (leading : text.head? = some '0' → text = ['0']) :
    integer? (sign ++ text) = inRange? (if negative then -(n : Int) else n) := by
  have numeric := places.forall fun _ _ digit => digit.decimal.1
  have read : natural? text = some digits := by
    have plain : ¬(text.head? = some '0' ∧ 1 < text.length) := by
      rintro ⟨zero, long⟩
      rw [leading zero] at long
      contradiction
    rw [natural?, grouped.digits?_eq numeric (places.not_mem_underscore (by decide))]
    exact if_neg plain
  have valued : Numeral.value digits = n := places.foldl_eq fun _ _ digit => digit.decimal.2
  unfold integer?
  split
  · next same => exact absurd same (grouped.ne_mark signed places rfl)
  · next same => exact absurd same (grouped.ne_mark signed places rfl)
  · next same => exact absurd same (grouped.ne_mark signed places rfl)
  · obtain ⟨c, rest, rfl, first⟩ := grouped.exists_cons
    rw [signed.sign_eq rest (numeric c first)]
    simp [read, valued]

/-- Digits of a base are read. -/
theorem based?_eq (places : Places base digits n) (grouped : Grouped digits text)
    (small : base ≤ 16) {isDigit : Char → Bool}
    (each : ∀ c v, IsDigit base c v → isDigit c = true) :
    based? base isDigit text = inRange? n := by
  have read := grouped.digits?_eq (places.forall each) (places.not_mem_underscore small)
  have valued := places.foldl_eq fun _ _ digit => (digit.value_eq small).1
  have cast : digits.foldl (fun (n : Int) c => base * n + digitValue c) 0 = n := by
    rw [← valued]
    exact List.foldl_hom Nat.cast fun _ _ => by push_cast; rfl
  rw [based?, read, ← cast]
  rfl

/-- Digits of another base are read behind its mark. -/
theorem integer?_based (listed : (mark, base) ∈ bases) (places : Places base digits n)
    (grouped : Grouped digits text) : integer? ('0' :: mark :: text) = inRange? n := by
  simp only [bases, List.mem_cons, Prod.mk.injEq, List.not_mem_nil, or_false] at listed
  rcases listed with ⟨rfl, rfl⟩ | ⟨rfl, rfl⟩ | ⟨rfl, rfl⟩
  · refine based?_eq places grouped (by decide) fun c v digit => ?_
    exact digit.all (fun c _ => isHexDigit c = true) (by decide)
  · refine based?_eq places grouped (by decide) fun c v digit => ?_
    exact digit.all (fun c _ => ('0' ≤ c && c ≤ '7') = true) (by decide)
  · refine based?_eq places grouped (by decide) fun c v digit => ?_
    exact digit.all (fun c _ => (c == '0' || c == '1') = true) (by decide)

/-- A written integer begins with a digit or a sign, and letters, digits and underscores follow. -/
theorem WritesInteger.shape (writes : WritesInteger i text) :
    ∃ c rest, text = c :: rest ∧ (c.isDigit = true ∨ c = '+' ∨ c = '-') ∧
      ∀ d ∈ rest, d.isAlphanum = true ∨ d = '_' := by
  cases writes with
  | @decimal negative sign digits text n signed places grouped _ =>
    have chars : ∀ d ∈ text, d.isAlphanum = true ∨ d = '_' := by
      intro d listed
      exact (grouped.mem d listed).symm.imp_left
        (places.forall (fun _ _ digit => digit.isAlphanum (by decide)) d)
    obtain ⟨c, rest, rfl, first⟩ := grouped.exists_cons
    cases signed with
    | absent =>
      exact ⟨c, rest, rfl, .inl (places.forall (fun _ _ digit => digit.decimal.1) c first),
        (List.forall_mem_cons.mp chars).2⟩
    | plus => exact ⟨'+', _, rfl, .inr (.inl rfl), chars⟩
    | minus => exact ⟨'-', _, rfl, .inr (.inr rfl), chars⟩
  | @based mark base n digits text listed places grouped =>
    have known : base ≤ 16 ∧ mark.isAlphanum = true := by
      simp only [bases, List.mem_cons, Prod.mk.injEq, List.not_mem_nil, or_false] at listed
      rcases listed with ⟨rfl, rfl⟩ | ⟨rfl, rfl⟩ | ⟨rfl, rfl⟩ <;> decide
    refine ⟨'0', mark :: text, rfl, .inl rfl, List.forall_mem_cons.mpr ⟨.inl known.2, ?_⟩⟩
    intro d inside
    exact (grouped.mem d inside).symm.imp_left
      (places.forall (fun _ _ digit => digit.isAlphanum known.1) d)

/-- A written integer is not real, and it is its value if that has 64 bits. -/
theorem WritesInteger.integer?_eq (writes : WritesInteger i text) :
    real? text = none ∧ integer? text = inRange? i := by
  cases writes with
  | @decimal negative sign digits text n signed places grouped leading =>
    have numeric := places.forall fun _ _ digit => digit.decimal.1
    refine ⟨?_, integer?_decimal signed places grouped leading⟩
    have plain : ∀ c ∈ text, isExponentMark c = false ∧ c ≠ '.' := by
      intro c listed
      rcases grouped.mem c listed with rfl | inDigits
      · decide
      · exact places.forall (fun _ _ digit =>
          digit.all (fun c _ => isExponentMark c = false ∧ c ≠ '.') (by decide))
          c inDigits
    obtain ⟨c, rest, rfl, first⟩ := grouped.exists_cons
    have read := signed.sign_eq rest (numeric c first)
    exact real?_eq_none read (numeric c first) (decimal?_eq_none read plain)
  | based listed places grouped =>
    exact ⟨real?_eq_none rfl rfl (decimal?_mark listed), integer?_based listed places grouped⟩

/-- A written integer is a word for its value, if that has 64 bits. -/
theorem WritesInteger.word?_eq (writes : WritesInteger i text) : word? text = inRange? i := by
  obtain ⟨noReal, read⟩ := writes.integer?_eq
  obtain ⟨c, rest, rfl, first, others⟩ := writes.shape
  have noLetter : c ≠ 't' ∧ c ≠ 'f' := by
    constructor <;> rintro rfl <;> simp at first
  have names : c :: rest ≠ "true".toList ∧ c :: rest ≠ "false".toList :=
    ⟨fun same => noLetter.1 (List.cons.inj same).1, fun same => noLetter.2 (List.cons.inj same).1⟩
  have hyphen : '-' ∉ (c :: rest).tail := fun listed => by simpa using others '-' listed
  have colon : ':' ∉ c :: rest := by
    rw [List.mem_cons, not_or]
    refine ⟨?_, fun listed => by simpa using others ':' listed⟩
    rintro rfl
    simp at first
  rw [word?, if_neg names.1, if_neg names.2, moment?_eq_none hyphen colon, noReal, read]
  rfl

/-- A written integer is a value without quotes, if it has 64 bits. -/
theorem WritesInteger.scalar?_eq (writes : WritesInteger i text)
    (ends : ∀ c ∈ rest.head?, isWordChar c = false) :
    scalar? (text ++ rest) = (inRange? i).map fun value => (value, rest) := by
  obtain ⟨c, others, rfl, first, behind⟩ := writes.shape
  have chars : ∀ d ∈ c :: others, isWordChar d = true := by
    rw [List.forall_mem_cons]
    refine ⟨?_, fun d listed => ?_⟩
    · rcases first with digit | rfl | rfl
      · simp [isWordChar, Char.isAlphanum, digit]
      · rfl
      · rfl
    · rcases behind d listed with letter | rfl
      · simp [isWordChar, letter]
      · rfl
  have hyphen : '-' ∉ (c :: others).tail := fun listed => by simpa using behind '-' listed
  rw [scalar?]
  dsimp only
  rw [takeWhile_append_stop chars ends, dropWhile_append_stop chars ends, date?_eq_none hyphen,
    writes.word?_eq]

end Integers

end SalarySurvey.Toml
