import SalarySurvey.Cell

/-!
# Literals

The values that a query compares cells with. A literal made of ASCII digits only is a number; any
other one, a signed number too, is a text. A literal compares with a cell of its own kind only; a
text compares with a timestamp when it names one.
-/
namespace SalarySurvey.Query

/-- A value in a query. -/
inductive Literal where
  /-- A number. -/
  | number (value : Binary64)
  /-- A text. -/
  | text (value : String)
  deriving DecidableEq

namespace Literal

/-- The literal that a text stands for. -/
def ofText (text : String) : Literal :=
  if Numeral.isNatural text.toList then .number (.ofNat (Numeral.value text.toList))
  else .text text

/-- How a cell compares with a literal, if it does. -/
def compare? (literal : Literal) (cell : Cell) : Option Ordering :=
  match cell, literal with
  | .integer i, .number x => (Binary64.ofInt i.toInt).compare? x
  | .real y, .number x => y.compare? x
  | .text s, .text t => some (compare s t)
  | .timestamp u, .text t => (Timestamp.read? t).map u.compare
  | _, _ => none

/-- The description of a literal: a number with all its digits, a text in single quotes. -/
def describe : Literal → String
  | number x => String.ofList (Binary64.plainStyle.write x)
  | text s => "'" ++ s ++ "'"

end Literal

end SalarySurvey.Query
