import SalarySurvey.Query.Literal
import SalarySurvey.Query.Operator
import SalarySurvey.Query.Words
import SalarySurvey.Survey

/-!
# Conditions

A condition is one parameter of a query, such as `salary[gte]=100000`. Its key is a field, or a
field followed by the name of an operator in brackets. Of several operators in a key the last one
counts, and what follows its closing bracket is ignored. Only the first line of a key is searched,
and a field has at least one character. A key without an operator is a field as a whole and asks
for equality.
-/
namespace SalarySurvey.Query

/-- What a condition compares with. -/
inductive Operand where
  /-- One literal. -/
  | scalar (literal : Literal)
  /-- A set of literals. -/
  | set (members : List Literal)
  deriving DecidableEq

/-- One requirement on one column. -/
structure Condition where
  /-- The column. -/
  column : Column
  /-- The relation. -/
  operator : Operator
  /-- What the cells are compared with. -/
  operand : Operand
  deriving DecidableEq

/-- The name of an operator with which, in brackets, a text starts. -/
def suffixAt? (text : List Char) : Option String :=
  (Operator.suffixes.map Prod.fst).find? fun name => ('[' :: name.toList ++ [']']).isPrefixOf text

/-- The operator whose name in brackets a text starts with. -/
def operatorAt? (text : List Char) : Option Operator :=
  (suffixAt? text).bind Operator.ofSuffix?

/-- The text before the last operator in brackets and that operator. -/
def lastOperator? : List Char → Option (List Char × Operator)
  | [] => none
  | c :: rest =>
    match lastOperator? rest with
    | some (field, operator) => some (c :: field, operator)
    | none => (operatorAt? (c :: rest)).map fun operator => ([], operator)

/-- The field and the operator of a key. -/
def splitKey (key : String) : String × Operator :=
  match key.toList.takeWhile (· != '\n') with
  | [] => (key, .equal)
  | c :: rest =>
    match lastOperator? rest with
    | some (field, operator) => (String.ofList (c :: field), operator)
    | none => (key, .equal)

namespace Condition

/-- The condition of one parameter. -/
def ofParameter (key value : String) : Except Refusal Condition :=
  let (field, operator) := splitKey key
  match Column.ofName? field with
  | none => .error (.unsupportedKey field)
  | some column =>
    .ok ⟨column, operator,
      if operator.takesSet then .set ((words value).map Literal.ofText)
      else .scalar (Literal.ofText value)⟩

/-- Whether a cell equals a literal of a set. -/
def isMember (cell : Cell) (members : List Literal) : Bool :=
  members.any fun literal => literal.compare? cell == some .eq

/-- Whether a cell meets a condition. -/
def holdsFor (condition : Condition) (cell : Cell) : Bool :=
  match condition.operand, condition.operator with
  | .set members, .noneOf => !isMember cell members
  | .set members, _ => isMember cell members
  | .scalar literal, operator => operator.holds (literal.compare? cell)

/-- Whether a row meets a condition. -/
def holds (condition : Condition) (row : Row) : Bool :=
  condition.holdsFor (row.at condition.column)

/-- The description of an operand. -/
def describeOperand : Operand → String
  | .scalar literal => literal.describe
  | .set members => "[" ++ ", ".intercalate (members.map Literal.describe) ++ "]"

/-- The description of a condition. -/
def describe (condition : Condition) : String :=
  condition.column.name ++ " " ++ condition.operator.symbol ++ " " ++
    describeOperand condition.operand

end Condition

end SalarySurvey.Query
