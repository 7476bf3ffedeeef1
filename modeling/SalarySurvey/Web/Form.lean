import SalarySurvey.Text.Utf8

/-!
# Forms

Parameters in the query of a request. Pieces are separated by ampersands and empty ones are
skipped; the first equals sign of a piece separates its key from its value, and a piece without
one has an empty value. A plus sign stands for a space, and a percent sign with two hexadecimal
digits for a byte; a percent sign without them stands for itself. The bytes are read as UTF-8,
with the replacement character for what is ill formed.

The writer escapes every byte except ASCII letters and digits, so any list of parameters has a
form.
-/
namespace SalarySurvey.Web.Form

/-- The value of a hexadecimal digit of either case. -/
def hexValue? (byte : UInt8) : Option Nat :=
  let n := byte.toNat
  if 0x30 ≤ n ∧ n ≤ 0x39 then some (n - 0x30)
  else if 0x41 ≤ n ∧ n ≤ 0x46 then some (n - 0x37)
  else if 0x61 ≤ n ∧ n ≤ 0x66 then some (n - 0x57)
  else none

/-- The byte of two hexadecimal digits. -/
def hexByte? (high low : UInt8) : Option UInt8 := do
  let h ← hexValue? high
  let l ← hexValue? low
  some (UInt8.ofNat (h * 16 + l))

/-- The percent sign. -/
def percent : UInt8 := 0x25

/-- The plus sign. -/
def plus : UInt8 := 0x2B

/-- The space. -/
def space : UInt8 := 0x20

/-- The ampersand. -/
def ampersand : UInt8 := 0x26

/-- The equals sign. -/
def equals : UInt8 := 0x3D

/-- Bytes with their escapes undone. -/
def unescape : List UInt8 → List UInt8
  | [] => []
  | [byte] => [if byte = plus then space else byte]
  | [byte, next] => (if byte = plus then space else byte) :: unescape [next]
  | byte :: high :: low :: rest =>
    if byte = plus then space :: unescape (high :: low :: rest)
    else if byte = percent then
      match hexByte? high low with
      | some escaped => escaped :: unescape rest
      | none => byte :: unescape (high :: low :: rest)
    else byte :: unescape (high :: low :: rest)

/-- The text of a key or a value. -/
def decodeText (bytes : List UInt8) : String :=
  String.ofList (Text.Utf8.decodeLossy (unescape bytes))

/-- The key and the value of a piece. -/
def decodePiece (piece : List UInt8) : String × String :=
  (decodeText (piece.takeWhile (· != equals)),
   decodeText ((piece.dropWhile (· != equals)).drop 1))

/-- The parameters in the bytes of a query. -/
def decodeBytes (bytes : List UInt8) : List (String × String) :=
  ((bytes.splitOn ampersand).filter fun piece => !piece.isEmpty).map decodePiece

/-- The parameters in a query. -/
def decode (query : String) : List (String × String) :=
  decodeBytes (Text.Utf8.encode query.toList)

/-- A hexadecimal digit in upper case. -/
def hexDigit (n : Nat) : Char := (Nat.digitChar n).toUpper

/-- A byte as it is written: itself if it is an ASCII letter or digit, else escaped. -/
def writeByte (byte : UInt8) : List Char :=
  let c := Char.ofNat byte.toNat
  if c.isAlphanum then [c]
  else ['%', hexDigit (byte.toNat / 16), hexDigit (byte.toNat % 16)]

/-- A key or a value as it is written. -/
def writeText (text : String) : List Char :=
  (Text.Utf8.encode text.toList).flatMap writeByte

/-- A parameter as it is written. -/
def writePiece (parameter : String × String) : List Char :=
  writeText parameter.1 ++ '=' :: writeText parameter.2

/-- The query of some parameters. -/
def encode (parameters : List (String × String)) : String :=
  String.ofList (['&'].intercalate (parameters.map writePiece))

end SalarySurvey.Web.Form
