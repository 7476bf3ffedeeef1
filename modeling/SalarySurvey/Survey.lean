import SalarySurvey.Cell
import SalarySurvey.Column
import SalarySurvey.Csv.Record
import SalarySurvey.Files
import SalarySurvey.Text.Quoted

/-!
# The survey

The answers of the survey as they are held in memory: the headers of the source file and one row
of cells for each answer, in the order of the file.
-/
namespace SalarySurvey

/-- One cell for each column. -/
abbrev Row := PerColumn Cell

/-- The survey. -/
structure Survey where
  /-- The headers of the source file. -/
  headers : PerColumn String
  /-- The rows in the order of the file. -/
  rows : List Row

/-- Each canonical name with the header of its column, in the order of the columns. -/
def Survey.columnDefinitions (survey : Survey) : List (String × String) :=
  Column.all.map fun column => (column.name, survey.headers.at column)

/-- Why the records of a file cannot be read. -/
inductive RecordError where
  /-- The system could not read the file. -/
  | unread (reason : FileError)
  /-- A record has not as many fields as the header. -/
  | ragged (record : Nat) (start : Csv.Place) (found expected : Nat)
  /-- A field is not UTF-8; the offset counts its well-formed bytes. -/
  | notUtf8 (record : Nat) (start : Csv.Place) (field offset : Nat)
  deriving DecidableEq

namespace RecordError

/-- What is wrong with the encoding of a field. -/
def encodingMessage (field offset : Nat) : String :=
  "invalid utf-8: invalid UTF-8 in field " ++ toString field ++ " near byte index " ++
    toString offset

/-- The message of an error. -/
def message : RecordError → String
  | unread reason => reason.message
  | ragged record start found expected =>
    "CSV error: record " ++ toString record ++ " (line: " ++ toString start.line ++
      ", byte: " ++ toString start.byte ++ "): found record with " ++ toString found ++
      " fields, but the previous record has " ++ toString expected ++ " fields"
  | notUtf8 record start field offset =>
    "CSV parse error: record " ++ toString record ++ " (line " ++ toString start.line ++
      ", field: " ++ toString field ++ ", byte: " ++ toString start.byte ++ "): " ++
      encodingMessage field offset

end RecordError

/-- Why a survey cannot be loaded. -/
inductive LoadError where
  /-- The file cannot be opened. -/
  | unopened (path : String) (reason : FileError)
  /-- The records of the file cannot be read. -/
  | unreadable (error : RecordError)
  /-- The header has not as many fields as there are columns. -/
  | columnCount (found : Nat)
  /-- The first cell of a row is no timestamp. -/
  | badTimestamp (row : Nat) (text : String)
  deriving DecidableEq

namespace LoadError

/-- The message of an error. -/
def message : LoadError → String
  | unopened path reason =>
    "Failed to open dataset " ++ Text.quoted path ++ ": " ++ reason.message
  | unreadable error => "CSV error: " ++ error.message
  | columnCount found =>
    "Expected " ++ toString Column.count ++ " columns, found " ++ toString found
  | badTimestamp row text => "Invalid timestamp at row " ++ toString row ++ ": '" ++ text ++ "'"

/-- The messages of an error and of its causes, the outermost first. -/
def chain (error : LoadError) : List String :=
  error.message ::
    match error with
    | unopened _ reason => [reason.message]
    | unreadable error => [error.message]
    | columnCount _ | badTimestamp .. => []

end LoadError

end SalarySurvey
