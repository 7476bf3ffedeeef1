import SalarySurvey.Json
import SalarySurvey.Number.Numeral
import SalarySurvey.Text.CodePoint

/-!
# Reading JSON texts

What a JSON text says, by the grammar of JSON and without regard to the writer. Blanks may stand
around every token, a string may escape any of its characters, a character of two code units as a
surrogate pair, and control characters must be escaped. A number has no zero in front of other
digits; without a fraction and an exponent it is an integer, else the binary64 number nearest to
it. The members of an object keep their order, and a name that is repeated is kept twice. The
value `null` is refused, since no value here stands for it.

Every reader takes its part from the front of a text and returns it with what follows. Texts nest,
so the readers of strings, lists and values take fuel, which the length of the text bounds.
-/
namespace SalarySurvey.Json

/-- A reader of the front of a text. -/
abbrev Reader (α : Type) := List Char → Option (α × List Char)

/-- Whether a character may stand between tokens. -/
def isSpace (c : Char) : Bool := c == ' ' || c == '\t' || c == '\n' || c == '\r'

/-- A text without the spaces at its front. -/
def skipSpaces (text : List Char) : List Char :=
  text.dropWhile isSpace

section Strings

/-- A code unit in four hexadecimal digits. -/
def codeUnit? : Reader Nat
  | a :: b :: c :: d :: rest => do
    let digits ← [a, b, c, d].mapM Text.hexDigit?
    some (digits.foldl (fun n digit => 16 * n + digit) 0, rest)
  | _ => none

/-- The character of one code unit, or of a surrogate pair. -/
def codeUnits? (text : List Char) : Option (Char × List Char) := do
  let (first, rest) ← codeUnit? text
  if first.isValidChar then some (Char.ofNat first, rest)
  else if first < 0xDC00 then
    match rest with
    | '\\' :: 'u' :: rest => do
      let (second, rest) ← codeUnit? rest
      if 0xDC00 ≤ second ∧ second ≤ 0xDFFF then
        some (Char.ofNat (0x10000 + (first - 0xD800) * 0x400 + (second - 0xDC00)), rest)
      else none
    | _ => none
  else none

/-- The character of an escape, given what follows the backslash. -/
def escaped? : Reader Char
  | '"' :: rest => some ('"', rest)
  | '\\' :: rest => some ('\\', rest)
  | '/' :: rest => some ('/', rest)
  | 'b' :: rest => some ('\x08', rest)
  | 'f' :: rest => some ('\x0c', rest)
  | 'n' :: rest => some ('\n', rest)
  | 'r' :: rest => some ('\r', rest)
  | 't' :: rest => some ('\t', rest)
  | 'u' :: rest => codeUnits? rest
  | _ => none

/-- The characters of a string up to its closing quote. -/
def characters? : Nat → Reader (List Char)
  | 0, _ => none
  | _ + 1, [] => none
  | fuel + 1, c :: rest =>
    if c = '"' then some ([], rest)
    else if c = '\\' then do
      let (c, rest) ← escaped? rest
      let (text, rest) ← characters? fuel rest
      some (c :: text, rest)
    else if c.toNat < 0x20 then none
    else do
      let (text, rest) ← characters? fuel rest
      some (c :: text, rest)

/-- A string behind its opening quote. -/
def string? (text : List Char) : Option (String × List Char) :=
  (characters? text.length text).map fun (value, rest) => (String.ofList value, rest)

end Strings

section Numbers

/-- A leading minus, and what follows it. -/
def minus : List Char → Bool × List Char
  | '-' :: rest => (true, rest)
  | text => (false, text)

/-- At least one digit. -/
def digits? (text : List Char) : Option (List Char × List Char) :=
  let digits := text.takeWhile Char.isDigit
  if digits.isEmpty then none else some (digits, text.dropWhile Char.isDigit)

/-- The digits in front of the point: a zero alone, or digits that start with another one. -/
def whole? (text : List Char) : Option (List Char × List Char) := do
  let (digits, rest) ← digits? text
  if digits.head? = some '0' ∧ digits ≠ ['0'] then none else some (digits, rest)

/-- The digits behind the point; none if there is no point. -/
def fraction? : Reader (List Char)
  | '.' :: rest => digits? rest
  | rest => some ([], rest)

/-- The power of ten of a number, if it has one. -/
def power? : Reader (Option Int)
  | [] => some (none, [])
  | c :: rest =>
    if c = 'e' ∨ c = 'E' then do
      let (negative, rest) := Numeral.sign rest
      let (digits, rest) ← digits? rest
      let power : Int := Numeral.value digits
      some (some (if negative then -power else power), rest)
    else some (none, c :: rest)

/-- The number of a sign, the digits around its point and its power of ten. -/
def ofNumeral (negative : Bool) (whole fraction : List Char) (power : Option Int) : Json :=
  if fraction = [] ∧ power = none then
    .integer (if negative then -(Numeral.value whole : Int) else Numeral.value whole)
  else
    .real (.ofDecimal negative (Numeral.value (whole ++ fraction))
      (power.getD 0 - fraction.length))

/-- A number. -/
def number? (text : List Char) : Option (Json × List Char) := do
  let (negative, rest) := minus text
  let (whole, rest) ← whole? rest
  let (fraction, rest) ← fraction? rest
  let (power, rest) ← power? rest
  some (ofNumeral negative whole fraction power, rest)

end Numbers

section Lists

variable {α : Type} (element? : Reader α) (close : Char)

/-- The elements after the first one, each behind a comma, and the closing mark. -/
def others? : Nat → Reader (List α)
  | 0, _ => none
  | fuel + 1, text =>
    match skipSpaces text with
    | [] => none
    | c :: rest =>
      if c = close then some ([], rest)
      else if c = ',' then do
        let (element, rest) ← element? rest
        let (elements, rest) ← others? fuel rest
        some (element :: elements, rest)
      else none

/-- Elements with commas between them behind the opening mark, and the closing mark. -/
def list? (text : List Char) : Option (List α × List Char) :=
  match skipSpaces text with
  | [] => none
  | c :: rest =>
    if c = close then some ([], rest)
    else do
      let (element, rest) ← element? (c :: rest)
      let (elements, rest) ← others? element? close rest.length rest
      some (element :: elements, rest)

/-- A name, a colon and an element. -/
def member? (text : List Char) : Option ((String × α) × List Char) :=
  match skipSpaces text with
  | '"' :: rest => do
    let (name, rest) ← string? rest
    match skipSpaces rest with
    | ':' :: rest => do
      let (element, rest) ← element? rest
      some ((name, element), rest)
    | _ => none
  | _ => none

end Lists

/-- A value. -/
def value? : Nat → Reader Json
  | 0, _ => none
  | fuel + 1, text =>
    match skipSpaces text with
    | '"' :: rest => (string? rest).map fun (value, rest) => (.string value, rest)
    | 't' :: 'r' :: 'u' :: 'e' :: rest => some (.boolean true, rest)
    | 'f' :: 'a' :: 'l' :: 's' :: 'e' :: rest => some (.boolean false, rest)
    | '[' :: rest =>
      (list? (value? fuel) ']' rest).map fun (items, rest) => (.array items, rest)
    | '\x7b' :: rest =>
      (list? (member? (value? fuel)) '\x7d' rest).map fun (members, rest) =>
        (.object members, rest)
    | text => number? text

/-- The value of a whole text. -/
def read? (text : List Char) : Option Json := do
  let (value, rest) ← value? (text.length + 1) text
  if skipSpaces rest = [] then some value else none

end SalarySurvey.Json
