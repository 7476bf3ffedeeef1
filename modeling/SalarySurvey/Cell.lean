import SalarySurvey.Calendar.Layout
import SalarySurvey.Json

/-!
# Cells

The value of one question in one answer of the survey. Cells are ordered for sorting: numbers
first, then timestamps, then texts, and missing values last. Two integers compare exactly; when a
binary64 number takes part both sides are compared as such numbers, in their total order.
-/
namespace SalarySurvey

/-- A cell. -/
inductive Cell where
  /-- No value. -/
  | missing
  /-- A whole number. -/
  | integer (value : Int64)
  /-- A binary64 number. -/
  | real (value : Binary64)
  /-- A text. -/
  | text (value : String)
  /-- A timestamp. -/
  | timestamp (value : Timestamp)
  deriving DecidableEq

namespace Cell

/-- The texts that stand for a missing value. -/
def missingMarkers : List String :=
  ["", "#N/A", "#N/A N/A", "#NA", "-1.#IND", "-1.#QNAN", "-NaN", "-nan", "1.#IND", "1.#QNAN",
   "<NA>", "N/A", "NA", "NULL", "NaN", "None", "n/a", "nan", "null"]

/-- Whether a text stands for a missing value. -/
def isMissingMarker (text : String) : Bool :=
  missingMarkers.contains text

/-- Whether a cell has no value. -/
def isMissing : Cell → Bool
  | missing => true
  | _ => false

/-- The number in a cell, rounded to binary64. -/
def number? : Cell → Option Binary64
  | integer i => some (.ofInt i.toInt)
  | real x => some x
  | _ => none

/-- The place of the kind of a cell in the order of kinds. -/
def rank : Cell → Nat
  | integer _ | real _ => 0
  | timestamp _ => 1
  | text _ => 2
  | missing => 3

/-- The order of sorting. -/
def compare : Cell → Cell → Ordering
  | integer i, integer j => Ord.compare i.toInt j.toInt
  | integer i, real y => (Binary64.ofInt i.toInt).totalCompare y
  | real x, integer j => x.totalCompare (Binary64.ofInt j.toInt)
  | real x, real y => x.totalCompare y
  | text s, text t => Ord.compare s t
  | timestamp t, timestamp u => t.compare u
  | a, b => Ord.compare a.rank b.rank

/-- The JSON form of a cell; a missing value is the empty string. -/
def json : Cell → Json
  | missing => .string ""
  | integer i => .integer i.toInt
  | real x => .real x
  | text s => .string s
  | timestamp t => .string t.render

end Cell

end SalarySurvey
