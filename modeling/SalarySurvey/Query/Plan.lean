import SalarySurvey.Query.Condition

/-!
# Plans

The plan of a query collects its parameters: the columns to sort by, the columns to return and
the conditions. Of a key that is given more than once the last value counts, at the place of the
first one. The first parameter that cannot be understood refuses the whole query.
-/
namespace SalarySurvey.Query

/-- A parameter of a query, its key and its value. -/
abbrev Parameter := String × String

/-- Parameters with one of them set: its value is replaced where its key stands, or it is added at
the end. -/
def setParameter (key value : String) : List Parameter → List Parameter
  | [] => [(key, value)]
  | (k, v) :: rest =>
    if k = key then (key, value) :: rest else (k, v) :: setParameter key value rest

/-- One parameter for each key, in the order of first occurrences and with the last value. -/
def collapse (parameters : List Parameter) : List Parameter :=
  parameters.foldl (fun kept (key, value) => setParameter key value kept) []

/-- What a query asks for. -/
structure Plan where
  /-- The conditions, all of which must hold. -/
  conditions : List Condition := []
  /-- The columns to sort by, the most significant first. -/
  sort : Option (List Column) := none
  /-- The columns to return, in order. -/
  fields : Option (List Column) := none
  deriving DecidableEq

namespace Plan

/-- A plan with one more parameter. -/
def add (plan : Plan) (parameter : Parameter) : Except Refusal Plan :=
  let (key, value) := parameter
  if key = "sort" then (columns value).map fun found => { plan with sort := some found }
  else if key = "fields" then (columns value).map fun found => { plan with fields := some found }
  else
    (Condition.ofParameter key value).map fun condition =>
      { plan with conditions := plan.conditions ++ [condition] }

/-- The plan of the parameters of a request. -/
def ofParameters (parameters : List Parameter) : Except Refusal Plan :=
  (collapse parameters).foldlM add {}

end Plan

end SalarySurvey.Query
