import SalarySurvey.Text.Utf8
import Mathlib.Tactic.Common

/-!
# Reading back UTF-8

The encoding of a character is read back as that character, whatever follows it, so the encoding
of a text decodes to the text. A code point of two, three or four bytes is cut into groups of six
bits behind the lead byte; the ranges of the second byte hold exactly because code points are
neither overlong nor surrogates.

Conversely bytes that are in these ranges are those of a character. So bytes decode to a text only
if they are its encoding, and else the offset of the failure counts the bytes of the longest text
at their front.
-/
namespace SalarySurvey.Text.Utf8

section Bytes

variable {byte : Nat}

theorem toNat_ofNat (fits : byte < 256) : (UInt8.ofNat byte).toNat = byte :=
  UInt8.toNat_ofNat_of_lt' fits

/-- A byte below 128 is a character of its own. -/
theorem read_single (ascii : byte < 0x80) (rest : List UInt8) :
    read none (UInt8.ofNat byte :: rest) = some (Char.ofNat byte) :: read none rest := by
  simp [read, step, start, toNat_ofNat (show byte < 256 by omega), ascii]

/-- The lead byte of two. -/
theorem read_lead_two (above : 0xC2 ≤ byte) (below : byte < 0xE0) (rest : List UInt8) :
    read none (UInt8.ofNat byte :: rest) = read (some ⟨1, byte - 0xC0, 0x80, 0xBF⟩) rest := by
  rw [read, step, start, toNat_ofNat (by omega)]
  dsimp only
  rw [if_neg (by omega), if_neg (by omega), if_pos below]
  rfl

/-- The lead byte of three. The least one excludes overlong forms, and one excludes surrogates. -/
theorem read_lead_three (above : 0xE0 ≤ byte) (below : byte < 0xF0) (rest : List UInt8) :
    read none (UInt8.ofNat byte :: rest) =
      read (some ⟨2, byte - 0xE0, if byte = 0xE0 then 0xA0 else 0x80,
        if byte = 0xED then 0x9F else 0xBF⟩) rest := by
  rw [read, step, start, toNat_ofNat (by omega)]
  dsimp only
  rw [if_neg (by omega), if_neg (by omega), if_neg (by omega), if_pos below]
  rfl

/-- The lead byte of four. The least one excludes overlong forms, and the greatest one what lies
above the last code point. -/
theorem read_lead_four (above : 0xF0 ≤ byte) (below : byte < 0xF5) (rest : List UInt8) :
    read none (UInt8.ofNat byte :: rest) =
      read (some ⟨3, byte - 0xF0, if byte = 0xF0 then 0x90 else 0x80,
        if byte = 0xF4 then 0x8F else 0xBF⟩) rest := by
  rw [read, step, start, toNat_ofNat (by omega)]
  dsimp only
  rw [if_neg (by omega), if_neg (by omega), if_neg (by omega), if_neg (by omega), if_pos below]
  rfl

/-- A continuation byte before the last one adds six bits. -/
theorem read_more {owed bits low high : Nat} (fits : byte < 256) (above : low ≤ byte)
    (below : byte ≤ high) (rest : List UInt8) :
    read (some ⟨owed + 2, bits, low, high⟩) (UInt8.ofNat byte :: rest) =
      read (some ⟨owed + 1, bits * 64 + (byte - 0x80), 0x80, 0xBF⟩) rest := by
  simp [read, step, extend, toNat_ofNat fits, above, below]

/-- The last continuation byte completes the character. -/
theorem read_last {bits low high : Nat} (fits : byte < 256) (above : low ≤ byte)
    (below : byte ≤ high) (rest : List UInt8) :
    read (some ⟨1, bits, low, high⟩) (UInt8.ofNat byte :: rest) =
      some (Char.ofNat (bits * 64 + (byte - 0x80))) :: read none rest := by
  simp [read, step, extend, toNat_ofNat fits, above, below]

end Bytes

/-- A character below 128 is one byte. -/
theorem utf8EncodeChar_ascii {c : Char} (ascii : c.toNat < 0x80) :
    String.utf8EncodeChar c = [UInt8.ofNat c.toNat] :=
  if_pos (show c.val.toNat ≤ 127 from Nat.le_of_lt_succ ascii)

/-- All bytes of other characters are at least 128. -/
theorem le_of_mem_utf8EncodeChar {c : Char} (wide : 0x80 ≤ c.toNat) {byte : UInt8}
    (mem : byte ∈ String.utf8EncodeChar c) : 0x80 ≤ byte.toNat := by
  have above : ¬c.val.toNat ≤ 127 := Nat.not_le.mpr wide
  unfold String.utf8EncodeChar at mem
  generalize c.val.toNat = v at mem above
  dsimp only at mem
  rw [if_neg above] at mem
  split_ifs at mem <;> simp only [List.mem_cons, List.not_mem_nil, or_false] at mem
  · rcases mem with rfl | rfl <;> rw [toNat_ofNat (by omega)] <;> omega
  · rcases mem with rfl | rfl | rfl <;> rw [toNat_ofNat (by omega)] <;> omega
  · rcases mem with rfl | rfl | rfl | rfl <;> rw [toNat_ofNat (by omega)] <;> omega

/-- An encoded character is read back. -/
theorem read_utf8EncodeChar (c : Char) (rest : List UInt8) :
    read none (String.utf8EncodeChar c ++ rest) = some c :: read none rest := by
  have valid : c.val.toNat < 0xD800 ∨ 0xDFFF < c.val.toNat ∧ c.val.toNat < 0x110000 := c.valid
  have whole : Char.ofNat c.val.toNat = c := Char.ofNat_toNat c
  unfold String.utf8EncodeChar
  generalize c.val.toNat = v at valid whole
  dsimp only
  by_cases one : v ≤ 127
  · rw [if_pos one, List.cons_append, read_single (by omega), whole, List.nil_append]
  · rw [if_neg one]
    by_cases two : v ≤ 2047
    · rw [if_pos two]
      simp only [List.cons_append, List.nil_append]
      rw [read_lead_two (by omega) (by omega), read_last (by omega) (by omega) (by omega)]
      have sum : (v / 64 % 32 + 192 - 0xC0) * 64 + (v % 64 + 128 - 0x80) = v := by omega
      rw [sum, whole]
    · rw [if_neg two]
      by_cases three : v ≤ 65535
      · rw [if_pos three]
        simp only [List.cons_append, List.nil_append]
        rw [read_lead_three (by omega) (by omega),
          read_more (by omega) (by split <;> omega) (by split <;> omega),
          read_last (by omega) (by omega) (by omega)]
        have sum : ((v / 4096 % 16 + 224 - 0xE0) * 64 + (v / 64 % 64 + 128 - 0x80)) * 64 +
            (v % 64 + 128 - 0x80) = v := by
          omega
        rw [sum, whole]
      · rw [if_neg three]
        simp only [List.cons_append, List.nil_append]
        rw [read_lead_four (by omega) (by omega),
          read_more (by omega) (by split <;> omega) (by split <;> omega),
          read_more (by omega) (by omega) (by omega), read_last (by omega) (by omega) (by omega)]
        have sum : (((v / 262144 % 8 + 240 - 0xF0) * 64 + (v / 4096 % 64 + 128 - 0x80)) * 64 +
            (v / 64 % 64 + 128 - 0x80)) * 64 + (v % 64 + 128 - 0x80) = v := by
          omega
        rw [sum, whole]

/-- An encoded text is read back. -/
theorem read_encode (text : List Char) (rest : List UInt8) :
    read none (encode text ++ rest) = text.map some ++ read none rest := by
  induction text with
  | nil => rfl
  | cons c text ih =>
    rw [encode, List.flatMap_cons, List.append_assoc, read_utf8EncodeChar, ← encode, ih]
    rfl

/-- Characters without a mark among them are collected as they are. -/
theorem collect_map_some (text : List Char) (offset : Nat) :
    collect offset (text.map some) = .ok text := by
  induction text generalizing offset with
  | nil => rfl
  | cons c text ih => simp [collect, ih, Except.map]

/-- An encoded text decodes to the text. -/
theorem decode_encode (text : List Char) : decode (encode text) = .ok text := by
  have back := read_encode text []
  rw [List.append_nil] at back
  rw [decode, back, read, List.append_nil, collect_map_some]

section WellFormed

variable {bytes : List UInt8} {lead second third fourth : Nat}

/-- The bytes of a character, by its code point. -/
theorem utf8EncodeChar_ofNat {v : Nat} (valid : v.isValidChar) :
    String.utf8EncodeChar (Char.ofNat v) =
      if v ≤ 127 then [UInt8.ofNat v]
      else if v ≤ 2047 then [UInt8.ofNat (v / 64 % 32 + 192), UInt8.ofNat (v % 64 + 128)]
      else if v ≤ 65535 then
        [UInt8.ofNat (v / 4096 % 16 + 224), UInt8.ofNat (v / 64 % 64 + 128),
          UInt8.ofNat (v % 64 + 128)]
      else
        [UInt8.ofNat (v / 262144 % 8 + 240), UInt8.ofNat (v / 4096 % 64 + 128),
          UInt8.ofNat (v / 64 % 64 + 128), UInt8.ofNat (v % 64 + 128)] := by
  have whole : Char.ofNat v = Char.ofNatAux v valid := dif_pos valid
  have point : (Char.ofNat v).val.toNat = v := congrArg (fun c : Char => c.val.toNat) whole
  simp only [String.utf8EncodeChar, point]

/-- A byte below 128 is the only byte of its character. -/
theorem exists_single (ascii : lead < 0x80) :
    ∃ c, String.utf8EncodeChar c = [UInt8.ofNat lead] := by
  refine ⟨Char.ofNat lead, ?_⟩
  rw [utf8EncodeChar_ofNat (.inl (by omega)), if_pos (by omega)]

/-- Two bytes in their ranges are those of a character. -/
theorem exists_double (above : 0xC2 ≤ lead) (below : lead < 0xE0) (low : 0x80 ≤ second)
    (high : second ≤ 0xBF) :
    ∃ c, String.utf8EncodeChar c = [UInt8.ofNat lead, UInt8.ofNat second] := by
  obtain ⟨v, sum⟩ : ∃ v, v = (lead - 0xC0) * 64 + (second - 0x80) := ⟨_, rfl⟩
  refine ⟨Char.ofNat v, ?_⟩
  have one : v / 64 % 32 + 192 = lead := by omega
  have two : v % 64 + 128 = second := by omega
  rw [utf8EncodeChar_ofNat (.inl (by omega)), if_neg (by omega), if_pos (by omega), one, two]

/-- Three bytes in their ranges are those of a character. -/
theorem exists_triple (above : 0xE0 ≤ lead) (below : lead < 0xF0)
    (low : (if lead = 0xE0 then 0xA0 else 0x80) ≤ second)
    (high : second ≤ if lead = 0xED then 0x9F else 0xBF) (least : 0x80 ≤ third)
    (greatest : third ≤ 0xBF) :
    ∃ c, String.utf8EncodeChar c =
      [UInt8.ofNat lead, UInt8.ofNat second, UInt8.ofNat third] := by
  obtain ⟨v, sum⟩ : ∃ v, v = ((lead - 0xE0) * 64 + (second - 0x80)) * 64 + (third - 0x80) :=
    ⟨_, rfl⟩
  refine ⟨Char.ofNat v, ?_⟩
  split at low <;> split at high
  all_goals
    have valid : v.isValidChar := by
      unfold Nat.isValidChar
      omega
    have one : v / 4096 % 16 + 224 = lead := by omega
    have two : v / 64 % 64 + 128 = second := by omega
    have three : v % 64 + 128 = third := by omega
    rw [utf8EncodeChar_ofNat valid, if_neg (by omega), if_neg (by omega), if_pos (by omega), one,
      two, three]

/-- Four bytes in their ranges are those of a character. -/
theorem exists_quadruple (above : 0xF0 ≤ lead) (below : lead < 0xF5)
    (low : (if lead = 0xF0 then 0x90 else 0x80) ≤ second)
    (high : second ≤ if lead = 0xF4 then 0x8F else 0xBF) (least : 0x80 ≤ third)
    (greatest : third ≤ 0xBF) (lower : 0x80 ≤ fourth) (upper : fourth ≤ 0xBF) :
    ∃ c, String.utf8EncodeChar c =
      [UInt8.ofNat lead, UInt8.ofNat second, UInt8.ofNat third, UInt8.ofNat fourth] := by
  obtain ⟨v, sum⟩ : ∃ v, v = (((lead - 0xF0) * 64 + (second - 0x80)) * 64 + (third - 0x80)) * 64 +
      (fourth - 0x80) := ⟨_, rfl⟩
  refine ⟨Char.ofNat v, ?_⟩
  split at low <;> split at high
  all_goals
    have valid : v.isValidChar := by
      unfold Nat.isValidChar
      omega
    have one : v / 262144 % 8 + 240 = lead := by omega
    have two : v / 4096 % 64 + 128 = second := by omega
    have three : v / 64 % 64 + 128 = third := by omega
    have four : v % 64 + 128 = fourth := by omega
    rw [utf8EncodeChar_ofNat valid, if_neg (by omega), if_neg (by omega), if_neg (by omega), one,
      two, three, four]

/-- Behind the begun bytes of a character stands a byte that continues it, unless a mark comes
next. -/
theorem exists_continuation {begun : Begun} (clean : (read (some begun) bytes).head? ≠ some none) :
    ∃ byte rest, bytes = UInt8.ofNat byte :: rest ∧ byte < 256 ∧ begun.low ≤ byte ∧
      byte ≤ begun.high := by
  cases bytes with
  | nil => simp [read] at clean
  | cons byte rest =>
    refine ⟨byte.toNat, rest, by rw [UInt8.ofNat_toNat], byte.toNat_lt, ?_⟩
    by_contra outside
    simp [read, step, extend, outside] at clean

/-- Bytes begin with those of a character, unless a mark comes first. -/
theorem exists_character {byte : UInt8}
    (clean : (read none (byte :: bytes)).head? ≠ some none) :
    ∃ c rest, byte :: bytes = String.utf8EncodeChar c ++ rest := by
  obtain ⟨lead, small, rfl⟩ : ∃ lead, lead < 256 ∧ byte = UInt8.ofNat lead :=
    ⟨byte.toNat, byte.toNat_lt, by rw [UInt8.ofNat_toNat]⟩
  by_cases one : lead < 0x80
  · obtain ⟨c, encoded⟩ := exists_single one
    exact ⟨c, bytes, by rw [encoded]; rfl⟩
  by_cases early : lead < 0xC2
  · have stray : start (UInt8.ofNat lead) = ([none], none) := by
      simp [start, toNat_ofNat small, one, early]
    simp [read, step, stray] at clean
  by_cases two : lead < 0xE0
  · rw [read_lead_two (by omega) two] at clean
    obtain ⟨second, rest, rfl, -, low, high⟩ := exists_continuation clean
    obtain ⟨c, encoded⟩ := exists_double (by omega) two low high
    exact ⟨c, rest, by rw [encoded]; rfl⟩
  by_cases three : lead < 0xF0
  · rw [read_lead_three (by omega) three] at clean
    obtain ⟨second, rest, rfl, fits, low, high⟩ := exists_continuation clean
    rw [read_more fits low high] at clean
    obtain ⟨third, rest, rfl, -, least, greatest⟩ := exists_continuation clean
    obtain ⟨c, encoded⟩ := exists_triple (by omega) three low high least greatest
    exact ⟨c, rest, by rw [encoded]; rfl⟩
  by_cases four : lead < 0xF5
  · rw [read_lead_four (by omega) four] at clean
    obtain ⟨second, rest, rfl, fits, low, high⟩ := exists_continuation clean
    rw [read_more fits low high] at clean
    obtain ⟨third, rest, rfl, also, least, greatest⟩ := exists_continuation clean
    rw [read_more also least greatest] at clean
    obtain ⟨fourth, rest, rfl, -, lower, upper⟩ := exists_continuation clean
    obtain ⟨c, encoded⟩ := exists_quadruple (by omega) four low high least greatest lower upper
    exact ⟨c, rest, by rw [encoded]; rfl⟩
  · have stray : start (UInt8.ofNat lead) = ([none], none) := by
      simp [start, toNat_ofNat small, one, early, two, three, four]
    simp [read, step, stray] at clean

/-- Bytes that do not begin with a character, though there are some. -/
def IllFormed (bytes : List UInt8) : Prop :=
  bytes ≠ [] ∧ ∀ c rest, bytes ≠ String.utf8EncodeChar c ++ rest

/-- A mark comes first exactly in front of ill-formed bytes. -/
theorem head?_read : (read none bytes).head? = some none ↔ IllFormed bytes := by
  constructor
  · intro mark
    constructor
    · rintro rfl
      contradiction
    · rintro c rest rfl
      simp [read_utf8EncodeChar] at mark
  · rintro ⟨filled, stray⟩
    obtain ⟨byte, others, rfl⟩ := List.exists_cons_of_ne_nil filled
    by_contra clean
    obtain ⟨c, rest, whole⟩ := exists_character clean
    exact stray c rest whole

/-- All bytes are the encoding of a text and what is ill formed behind it, if there is more. -/
theorem exists_text (bytes : List UInt8) :
    ∃ text rest, bytes = encode text ++ rest ∧ (rest = [] ∨ IllFormed rest) := by
  by_cases ill : bytes = [] ∨ IllFormed bytes
  · exact ⟨[], bytes, rfl, ill⟩
  · simp only [IllFormed, not_or, not_and, not_forall, not_not] at ill
    obtain ⟨c, others, rfl⟩ := ill.2 ill.1
    have shorter : others.length < (String.utf8EncodeChar c ++ others).length := by
      have filled := Char.utf8Size_pos c
      rw [List.length_append, String.length_utf8EncodeChar]
      omega
    obtain ⟨text, rest, rfl, ends⟩ := exists_text others
    exact ⟨c :: text, rest, by simp [encode], ends⟩
termination_by bytes.length

/-- The first mark ends the text that is collected, and the offset counts its bytes. -/
theorem collect_append_none (text : List Char) (items : List Item) (offset : Nat) :
    collect offset (text.map some ++ none :: items) = .error (offset + (encode text).length) := by
  induction text generalizing offset with
  | nil => rfl
  | cons c text ih =>
    have length : (encode (c :: text)).length = c.utf8Size + (encode text).length := by
      simp [encode, String.length_utf8EncodeChar]
    simp [collect, ih, length, Except.map, Nat.add_assoc]

/-- A text with ill-formed bytes behind it does not decode, and the offset is that of these. -/
theorem decode_encode_append (text : List Char) {rest : List UInt8} (ill : IllFormed rest) :
    decode (encode text ++ rest) = .error (encode text).length := by
  obtain ⟨items, marked⟩ : ∃ items, read none rest = none :: items := by
    have mark := head?_read.mpr ill
    exact List.head?_eq_some_iff.mp mark
  rw [decode, read_encode, marked, collect_append_none, Nat.zero_add]

/-- Bytes decode to a text exactly when they are its encoding. -/
theorem decode_eq_ok {text : List Char} : decode bytes = .ok text ↔ bytes = encode text := by
  constructor
  · intro decoded
    obtain ⟨found, rest, rfl, rfl | ill⟩ := exists_text bytes
    · rw [List.append_nil, decode_encode, Except.ok.injEq] at decoded
      rw [List.append_nil, decoded]
    · rw [decode_encode_append found ill] at decoded
      contradiction
  · rintro rfl
    exact decode_encode text

/-- Bytes do not decode exactly when a text with ill-formed bytes behind it is all of them. -/
theorem decode_eq_error {offset : Nat} : decode bytes = .error offset ↔
    ∃ text rest, bytes = encode text ++ rest ∧ IllFormed rest ∧ offset = (encode text).length := by
  constructor
  · intro refused
    obtain ⟨text, rest, rfl, rfl | ill⟩ := exists_text bytes
    · rw [List.append_nil, decode_encode] at refused
      contradiction
    · rw [decode_encode_append text ill, Except.error.injEq] at refused
      exact ⟨text, rest, rfl, ill, refused.symm⟩
  · rintro ⟨text, rest, rfl, ill, rfl⟩
    exact decode_encode_append text ill

end WellFormed

end SalarySurvey.Text.Utf8
