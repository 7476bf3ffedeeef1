import SalarySurvey.Number.Binary64

/-!
# Numerals

Reading numbers from texts. A natural numeral is any row of ASCII digits, leading zeros
included. An integer numeral has an optional sign in front of one and must fit in 64 bits. A
real numeral has an optional sign, digits with at most one point among or around them and an
optional power of ten, or names an infinity or NaN in letters of any case.
-/
namespace SalarySurvey.Numeral

/-- The value of a decimal digit. -/
def digit (c : Char) : Nat := c.toNat - '0'.toNat

/-- The value of a row of decimal digits. -/
def value (digits : List Char) : Nat :=
  digits.foldl (fun n c => 10 * n + digit c) 0

/-- Whether a text is a natural numeral: at least one character, and ASCII digits only. -/
def isNatural (text : List Char) : Bool :=
  !text.isEmpty && text.all Char.isDigit

/-- A leading sign, true for a minus, and what follows it. -/
def sign : List Char → Bool × List Char
  | '-' :: rest => (true, rest)
  | '+' :: rest => (false, rest)
  | text => (false, text)

/-- An integer with any number of digits. -/
def integer? (text : List Char) : Option Int :=
  let (negative, digits) := sign text
  if isNatural digits then some (if negative then -(value digits : Int) else value digits)
  else none

/-- An integer of 64 bits. -/
def int64? (text : List Char) : Option Int64 := do
  let i ← integer? text
  if Int64.minValue.toInt ≤ i ∧ i ≤ Int64.maxValue.toInt then some (Int64.ofInt i) else none

/-- The power of ten after the digits of a real numeral; none stands for zero. -/
def exponent? : List Char → Option Int
  | [] => some 0
  | c :: rest => if c = 'e' ∨ c = 'E' then integer? rest else none

/-- A real numeral without its sign. -/
def unsignedReal? (negative : Bool) (text : List Char) : Option Binary64 :=
  let whole := text.takeWhile Char.isDigit
  let (fraction, rest) :=
    match text.dropWhile Char.isDigit with
    | '.' :: rest => (rest.takeWhile Char.isDigit, rest.dropWhile Char.isDigit)
    | rest => ([], rest)
  if whole.isEmpty && fraction.isEmpty then none
  else do
    let exponent ← exponent? rest
    some (.ofDecimal negative (value (whole ++ fraction)) (exponent - fraction.length))

/-- A real number. -/
def real? (text : List Char) : Option Binary64 :=
  let (negative, rest) := sign text
  let name := String.ofList (rest.map Char.toLower)
  if name = "inf" ∨ name = "infinity" then some (.infinity negative)
  else if name = "nan" then some (.nan negative)
  else unsignedReal? negative rest

end SalarySurvey.Numeral
