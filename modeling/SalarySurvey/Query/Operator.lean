/-!
# Operators

The relations that a condition can ask for. Six of them compare a cell with one literal; the other
two ask for membership in a set of literals.
-/
namespace SalarySurvey.Query

/-- A relation between a cell and an operand. -/
inductive Operator where
  /-- The cell equals the literal. -/
  | equal
  /-- The cell does not equal the literal. -/
  | notEqual
  /-- The cell is above the literal. -/
  | above
  /-- The cell equals the literal or is above it. -/
  | atLeast
  /-- The cell is below the literal. -/
  | below
  /-- The cell equals the literal or is below it. -/
  | atMost
  /-- The cell equals a literal of the set. -/
  | oneOf
  /-- The cell equals no literal of the set. -/
  | noneOf
  deriving DecidableEq

namespace Operator

/-- The operators that a key can name, each with its name. -/
def suffixes : List (String × Operator) :=
  [("gte", atLeast), ("lte", atMost), ("gt", above), ("lt", below), ("in", oneOf),
   ("ne", notEqual), ("notin", noneOf)]

/-- The operator that a name stands for. Equality has no name. -/
def ofSuffix? (name : String) : Option Operator :=
  suffixes.lookup name

/-- Whether the operand is a set of literals. -/
def takesSet : Operator → Bool
  | oneOf | noneOf => true
  | _ => false

/-- The description of an operator. -/
def symbol : Operator → String
  | equal => "=="
  | notEqual => "!="
  | above => ">"
  | atLeast => ">="
  | below => "<"
  | atMost => "<="
  | oneOf => "in"
  | noneOf => "not in"

/-- Whether an operator holds for the outcome of comparing a cell with one literal. Of the
operators only inequality holds when the two do not compare. -/
def holds : Operator → Option Ordering → Bool
  | notEqual, outcome => outcome != some .eq
  | _, none => false
  | equal, some outcome => outcome == .eq
  | above, some outcome => outcome == .gt
  | atLeast, some outcome => outcome != .lt
  | below, some outcome => outcome == .lt
  | atMost, some outcome => outcome != .gt
  | oneOf, some _ | noneOf, some _ => false

end Operator

end SalarySurvey.Query
