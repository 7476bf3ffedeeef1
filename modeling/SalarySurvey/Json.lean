import SalarySurvey.Number.Style

/-!
# JSON texts

The JSON values that the service sends, with the members of an object in a fixed order, and their
compact text. In a string only the quote, the backslash and the control characters below the
space are escaped; all else stands for itself. A number that is not finite has no JSON form; the
empty string stands for it.
-/
namespace SalarySurvey

/-- A JSON value. -/
inductive Json where
  /-- A string. -/
  | string (value : String)
  /-- A number without fraction and exponent. -/
  | integer (value : Int)
  /-- A binary64 number. -/
  | real (value : Binary64)
  /-- A truth value. -/
  | boolean (value : Bool)
  /-- A list of values. -/
  | array (items : List Json)
  /-- Named values in order. -/
  | object (members : List (String × Json))

namespace Json

/-- A hexadecimal digit in lower case. -/
def hexDigit (n : Nat) : Char := Nat.digitChar n

/-- A character inside a string. -/
def escape (c : Char) : List Char :=
  if c = '"' then ['\\', '"']
  else if c = '\\' then ['\\', '\\']
  else if c = '\n' then ['\\', 'n']
  else if c = '\r' then ['\\', 'r']
  else if c = '\t' then ['\\', 't']
  else if c = '\x08' then ['\\', 'b']
  else if c = '\x0c' then ['\\', 'f']
  else if c.toNat < 0x20 then
    ['\\', 'u', '0', '0', hexDigit (c.toNat / 16), hexDigit (c.toNat % 16)]
  else [c]

/-- A string with its quotes. -/
def quote (text : String) : List Char :=
  '"' :: text.toList.flatMap escape ++ ['"']

/-- An integer in decimal digits. -/
def writeInteger (i : Int) : List Char :=
  if i < 0 then '-' :: Nat.toDigits 10 i.natAbs else Nat.toDigits 10 i.natAbs

/-- A binary64 number; the empty string if it is not finite. -/
def writeReal (x : Binary64) : List Char :=
  if x.isFinite then Binary64.jsonStyle.write x else quote ""

/-- A truth value. -/
def writeBoolean (value : Bool) : List Char :=
  if value then ['t', 'r', 'u', 'e'] else ['f', 'a', 'l', 's', 'e']

mutual

/-- The text of a value. -/
def write : Json → List Char
  | .string value => quote value
  | .integer value => writeInteger value
  | .real value => writeReal value
  | .boolean value => writeBoolean value
  | .array [] => ['[', ']']
  | .array (item :: items) => '[' :: write item ++ writeItems items
  | .object [] => ['\x7b', '\x7d']
  | .object ((name, value) :: members) =>
    '\x7b' :: quote name ++ ':' :: write value ++ writeMembers members

/-- The items after the first one, each behind a comma, and the closing bracket. -/
def writeItems : List Json → List Char
  | [] => [']']
  | item :: items => ',' :: write item ++ writeItems items

/-- The members after the first one, each behind a comma, and the closing brace. -/
def writeMembers : List (String × Json) → List Char
  | [] => ['\x7d']
  | (name, value) :: members => ',' :: quote name ++ ':' :: write value ++ writeMembers members

end

/-- The compact text of a value. -/
def render (json : Json) : String :=
  String.ofList json.write

end Json

end SalarySurvey
