import SalarySurvey.Number.Shortest

/-!
# Number styles

How a binary64 number is written. All styles write the shortest decimal; they differ in the
positions of the decimal point that are written out, in what follows a whole number, and in the
choice between two equally near decimals.
-/
namespace SalarySurvey.Binary64

/-- A way to write numbers. The position of the decimal point is the number of digits before it,
negative for zeros that follow it. -/
structure Style where
  /-- The positions of the point for which the digits are written out around it. -/
  positional : Int → Bool
  /-- What follows a whole number that is written out. -/
  wholeTail : List Char
  /-- The choice between two equally near decimals. -/
  tie : Tie

/-- A positive decimal with its digits written out around the point. -/
def Style.writeOut (style : Style) (digits : List Char) (exponent : Int) : List Char :=
  let point : Int := digits.length + exponent
  if 0 ≤ exponent then digits ++ List.replicate exponent.toNat '0' ++ style.wholeTail
  else if 0 < point then digits.take point.toNat ++ '.' :: digits.drop point.toNat
  else '0' :: '.' :: List.replicate (-point).toNat '0' ++ digits

/-- A positive decimal with one digit before the point and a signed exponent. -/
def scientific (digits : List Char) (exponent : Int) : List Char :=
  let power : Int := digits.length + exponent - 1
  let mantissa :=
    match digits with
    | first :: second :: rest => first :: '.' :: second :: rest
    | few => few
  mantissa ++ 'e' :: (if power < 0 then '-' else '+') :: Nat.toDigits 10 power.natAbs

/-- A positive finite magnitude. -/
def Style.writeMagnitude (style : Style) (magnitude : Nat) : List Char :=
  let decimal := shortest style.tie magnitude
  let digits := Nat.toDigits 10 decimal.digits
  if style.positional (digits.length + decimal.exponent) then
    style.writeOut digits decimal.exponent
  else scientific digits decimal.exponent

/-- A number. A NaN is written without its sign. -/
def Style.write (style : Style) (x : Binary64) : List Char :=
  if x.isNaN then "NaN".toList
  else
    let body :=
      if x.magnitude = infinityMagnitude then "inf".toList
      else if x.magnitude = 0 then '0' :: style.wholeTail
      else style.writeMagnitude x.magnitude
    if x.negative then '-' :: body else body

/-- Numbers in JSON texts: written out from `0.00001` to below `10 ^ 16`, with `.0` after a whole
number, and a tie goes to the even digit. -/
def jsonStyle : Style where
  positional point := -5 < point && point ≤ 16
  wholeTail := ['.', '0']
  tie := .even

/-- Numbers in descriptions: always written out, nothing after a whole number, and a tie goes
up. -/
def plainStyle : Style where
  positional _ := true
  wholeTail := []
  tie := .up

end SalarySurvey.Binary64
