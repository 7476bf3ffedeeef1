/-!
# UTF-8

Texts as bytes and bytes as texts. The reader walks the bytes once and yields, in order, the
characters it could complete and a mark for every maximal ill-formed run: a lead byte with the
continuation bytes that still fitted it. `decode` accepts bytes without such a mark and otherwise
tells how many bytes before the first one were well formed; `decodeLossy` puts the replacement
character in the place of each mark.
-/
namespace SalarySurvey.Text.Utf8

/-- The bytes of a text. -/
def encode (text : List Char) : List UInt8 :=
  text.flatMap String.utf8EncodeChar

/-- A character that has begun: how many continuation bytes it still needs, the bits read so
far, and the range of its next byte. Only the byte after the lead has a range narrower than
`0x80` to `0xBF`; it excludes overlong forms, surrogates and code points above `0x10FFFF`. -/
structure Begun where
  /-- Continuation bytes still needed, at least one. -/
  owed : Nat
  /-- The bits read so far. -/
  bits : Nat
  /-- The least next byte. -/
  low : Nat
  /-- The greatest next byte. -/
  high : Nat

/-- One result of reading: a character, or the mark of an ill-formed run. -/
abbrev Item := Option Char

/-- What a byte means between characters. -/
def start (byte : UInt8) : List Item × Option Begun :=
  let b := byte.toNat
  if b < 0x80 then ([some (Char.ofNat b)], none)
  else if b < 0xC2 then ([none], none)
  else if b < 0xE0 then ([], some ⟨1, b - 0xC0, 0x80, 0xBF⟩)
  else if b < 0xF0 then
    ([], some ⟨2, b - 0xE0, if b = 0xE0 then 0xA0 else 0x80, if b = 0xED then 0x9F else 0xBF⟩)
  else if b < 0xF5 then
    ([], some ⟨3, b - 0xF0, if b = 0xF0 then 0x90 else 0x80, if b = 0xF4 then 0x8F else 0xBF⟩)
  else ([none], none)

/-- What a byte means after the bytes of a begun character: it continues the character, or the
character was ill formed and the byte starts anew. -/
def extend (begun : Begun) (byte : UInt8) : List Item × Option Begun :=
  let b := byte.toNat
  if begun.low ≤ b ∧ b ≤ begun.high then
    let bits := begun.bits * 64 + (b - 0x80)
    if begun.owed = 1 then ([some (Char.ofNat bits)], none)
    else ([], some ⟨begun.owed - 1, bits, 0x80, 0xBF⟩)
  else
    let (items, next) := start byte
    (none :: items, next)

/-- One byte of input. -/
def step : Option Begun → UInt8 → List Item × Option Begun
  | none, byte => start byte
  | some begun, byte => extend begun byte

/-- The characters and marks of some bytes, from the state that earlier bytes left. -/
def read : Option Begun → List UInt8 → List Item
  | none, [] => []
  | some _, [] => [none]
  | state, byte :: rest =>
    let (items, next) := step state byte
    items ++ read next rest

/-- All the characters, or the number of bytes that those before the first mark take. -/
def collect (offset : Nat) : List Item → Except Nat (List Char)
  | [] => .ok []
  | none :: _ => .error offset
  | some c :: rest => (collect (offset + c.utf8Size) rest).map (c :: ·)

/-- The text that some bytes encode; if they encode none, how many bytes at their front are well
formed. -/
def decode (bytes : List UInt8) : Except Nat (List Char) :=
  collect 0 (read none bytes)

/-- The text of some bytes with the replacement character for every ill-formed run. -/
def decodeLossy (bytes : List UInt8) : List Char :=
  (read none bytes).map fun item => item.getD '\uFFFD'

end SalarySurvey.Text.Utf8
