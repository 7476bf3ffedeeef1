import SalarySurvey.Query.Plan
import SalarySurvey.Survey

/-!
# Answers

A plan is carried out on the survey in three steps: the rows are sorted by the columns of the
plan, then those that meet all conditions are kept, and the answer shows the chosen columns.
Sorting is ascending and stable: rows that agree in all sort columns keep the order of the file.
Every row of an answer carries its position in the survey.
-/
namespace SalarySurvey.Query

/-- A row and its position in the survey. -/
abbrev PlacedRow := Row × Nat

/-- The answer to a query. -/
structure Answer where
  /-- The columns that are shown, in order. -/
  columns : List Column
  /-- The rows in order, each with its position in the survey. -/
  rows : List PlacedRow

/-- The order of rows by some columns, the most significant first. -/
def compareRows (keys : List Column) (a b : Row) : Ordering :=
  keys.foldr (fun key rest => ((a.at key).compare (b.at key)).then rest) .eq

/-- Rows in the order of some columns, those that agree in the order given. -/
def sortRows (keys : List Column) (rows : List PlacedRow) : List PlacedRow :=
  rows.mergeSort fun a b => (compareRows keys a.1 b.1).isLE

/-- The answer of a survey to a plan. -/
def Plan.answer (plan : Plan) (survey : Survey) : Answer :=
  let placed := survey.rows.zipIdx
  let sorted :=
    match plan.sort with
    | none => placed
    | some keys => sortRows keys placed
  { columns := plan.fields.getD Column.all
    rows := sorted.filter fun (row, _) => plan.conditions.all fun c => c.holds row }

/-- The answer of a survey to the parameters of a request. -/
def answer (survey : Survey) (parameters : List Parameter) : Except Refusal Answer :=
  (Plan.ofParameters parameters).map fun plan => plan.answer survey

namespace Answer

/-- The cells of a row that are shown. -/
def cells (answer : Answer) (row : Row) : List Cell :=
  answer.columns.map row.at

/-- A row as an object with a member for each shown column. -/
def rowJson (answer : Answer) (row : Row) : Json :=
  .object (answer.columns.map fun column => (column.name, (row.at column).json))

/-- An answer as a list of objects. -/
def json (answer : Answer) : Json :=
  .array (answer.rows.map fun (row, _) => answer.rowJson row)

end Answer

end SalarySurvey.Query
