import SalarySurvey.Calendar.Date
import SalarySurvey.Number.Numeral
import SalarySurvey.Toml.Value

/-!
# Numbers, truth values and moments of TOML

These values are written without quotes, as one word of letters, digits, signs, points, colons
and underscores. Underscores stand between two digits only. An integer has 64 bits and no zero in
front; with one of the prefixes `0x`, `0o` and `0b` it is written in another base and without a
sign. A real number has a fraction or an exponent or is `inf` or `nan`. A moment is a date, a time
of day, or both with or without an offset.
-/
namespace SalarySurvey.Toml

open Numeral (value)

/-- Whether a character can stand in such a word. -/
def isWordChar (c : Char) : Bool :=
  c.isAlphanum || "+-_.:".toList.contains c

/-- Digits with their underscores dropped. There is at least one digit, and an underscore stands
between two of them. -/
def digits? (isDigit : Char → Bool) (text : List Char) : Option (List Char) :=
  let groups := text.splitOn '_'
  if groups.all fun group => !group.isEmpty && group.all isDigit then some groups.flatten
  else none

/-- A decimal integer without sign and without a zero in front. -/
def natural? (text : List Char) : Option (List Char) := do
  let digits ← digits? Char.isDigit text
  if text.head? = some '0' ∧ 1 < text.length then none else some digits

/-- An integer of 64 bits. -/
def inRange? (i : Int) : Option Toml :=
  if Int64.minValue.toInt ≤ i ∧ i ≤ Int64.maxValue.toInt then some (.integer i) else none

/-- The value of a digit of any base up to sixteen. -/
def digitValue (c : Char) : Nat :=
  if c.isDigit then c.toNat - 0x30 else c.toLower.toNat - 0x57

/-- An integer in a base. -/
def based? (base : Nat) (isDigit : Char → Bool) (text : List Char) : Option Toml := do
  let digits ← digits? isDigit text
  inRange? (digits.foldl (fun n c => base * n + digitValue c) 0)

/-- Whether a character is a hexadecimal digit. -/
def isHexDigit (c : Char) : Bool :=
  c.isDigit || ('a' ≤ c && c ≤ 'f') || ('A' ≤ c && c ≤ 'F')

/-- An integer. -/
def integer? (text : List Char) : Option Toml :=
  match text with
  | '0' :: 'x' :: rest => based? 16 isHexDigit rest
  | '0' :: 'o' :: rest => based? 8 (fun c => '0' ≤ c && c ≤ '7') rest
  | '0' :: 'b' :: rest => based? 2 (fun c => c == '0' || c == '1') rest
  | _ => do
    let (negative, rest) := Numeral.sign text
    let digits ← natural? rest
    inRange? (if negative then -(value digits : Int) else value digits)

/-- Whether a character begins an exponent. -/
def isExponentMark (c : Char) : Bool := c == 'e' || c == 'E'

/-- The exponent of a real number, which may be absent. -/
def exponent? : List Char → Option Int
  | [] => some 0
  | _ :: rest => do
    let (negative, rest) := Numeral.sign rest
    let digits ← digits? Char.isDigit rest
    some (if negative then -(value digits : Int) else value digits)

/-- A real number with a fraction or an exponent. One that rounds to positive infinity is
refused. -/
def decimal? (text : List Char) : Option Toml := do
  let (negative, rest) := Numeral.sign text
  let mantissa := rest.takeWhile fun c => !isExponentMark c
  let exponent := rest.dropWhile fun c => !isExponentMark c
  let whole ← natural? (mantissa.takeWhile (· != '.'))
  let fraction ←
    match mantissa.dropWhile (· != '.') with
    | [] => if exponent.isEmpty then none else some []
    | _ :: fraction => digits? Char.isDigit fraction
  let power ← exponent? exponent
  let x := Binary64.ofDecimal negative (value (whole ++ fraction)) (power - fraction.length)
  if x = .infinity false then none else some (.real x)

/-- A real number. -/
def real? (text : List Char) : Option Toml :=
  let (negative, rest) := Numeral.sign text
  if rest = "inf".toList then some (.real (.infinity negative))
  else if rest = "nan".toList then some (.real (.nan negative))
  else decimal? text

/-- A number of two digits below a bound. -/
def twoDigits? (bound : Nat) : List Char → Option (List Char)
  | a :: b :: rest =>
    if a.isDigit && b.isDigit && value [a, b] < bound then some rest else none
  | _ => none

/-- What follows a given character. -/
def after? (c : Char) : List Char → Option (List Char)
  | [] => none
  | d :: rest => if d = c then some rest else none

/-- What follows a date that exists. -/
def date? : List Char → Option (List Char)
  | a :: b :: c :: d :: '-' :: e :: f :: '-' :: g :: h :: rest =>
    if [a, b, c, d, e, f, g, h].all Char.isDigit &&
        dayExists (value [a, b, c, d]) (value [e, f]) (value [g, h]) then some rest
    else none
  | _ => none

/-- What follows a time of day with its seconds. -/
def time? (text : List Char) : Option (List Char) := do
  let rest ← (twoDigits? 24 text).bind (after? ':')
  let rest ← (twoDigits? 60 rest).bind (after? ':')
  let rest ← twoDigits? 61 rest
  match rest with
  | '.' :: digits =>
    if (digits.takeWhile Char.isDigit).isEmpty then none
    else some (digits.dropWhile Char.isDigit)
  | rest => some rest

/-- Whether a text is an offset from universal time, or empty. -/
def isOffset : List Char → Bool
  | [] => true
  | ['Z'] | ['z'] => true
  | c :: rest =>
    (c == '+' || c == '-') &&
      ((twoDigits? 24 rest).bind (after? ':')).bind (twoDigits? 60) == some []

/-- Whether a text is a time of day with or without an offset. -/
def isTimeWithOffset (text : List Char) : Bool :=
  (time? text).any isOffset

/-- A date, a time, or both in one word. -/
def moment? (text : List Char) : Option Toml :=
  let valid :=
    match date? text with
    | some [] => true
    | some (c :: rest) => (c == 'T' || c == 't') && isTimeWithOffset rest
    | none => time? text == some []
  if valid then some (.moment (String.ofList text)) else none

/-- The value of a word. -/
def word? (text : List Char) : Option Toml :=
  if text = "true".toList then some (.boolean true)
  else if text = "false".toList then some (.boolean false)
  else (moment? text).or ((real? text).or (integer? text))

/-- A value without quotes, and what follows it. A date may go on with a time behind one space. -/
def scalar? (text : List Char) : Option (Toml × List Char) :=
  let word := text.takeWhile isWordChar
  let rest := text.dropWhile isWordChar
  match date? word, rest with
  | some [], ' ' :: more =>
    if (more.head?.map Char.isDigit).getD false then
      let time := more.takeWhile isWordChar
      if isTimeWithOffset time then
        some (.moment (String.ofList (word ++ ' ' :: time)), more.dropWhile isWordChar)
      else none
    else (word? word).map fun value => (value, rest)
  | _, _ => (word? word).map fun value => (value, rest)

end SalarySurvey.Toml
