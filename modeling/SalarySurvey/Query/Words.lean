import SalarySurvey.Column
import SalarySurvey.Text.Blank

/-!
# Word lists

A word list is a text with commas between its words. Words are trimmed, and a word that occurred
before is dropped, so the words keep the order of their first occurrences. The list is never
empty: a text without commas is one word, which may be empty.
-/
namespace SalarySurvey.Query

/-- Why a query is refused. -/
inductive Refusal where
  /-- The key of a condition names no column. -/
  | unsupportedKey (field : String)
  /-- A list of columns has a word that names none. -/
  | unsupportedColumn
  deriving DecidableEq

/-- What the client is told. -/
def Refusal.message : Refusal → String
  | unsupportedKey field => "Unsupported key " ++ field
  | unsupportedColumn => "Unsupported column in fields"

/-- The words of a list. -/
def words (text : String) : List String :=
  ((Text.pieces ',' text).map Text.trim).eraseDups

/-- The column of each word, in order. -/
def columnsOf : List String → Except Refusal (List Column)
  | [] => .ok []
  | word :: rest =>
    match Column.ofName? word with
    | none => .error .unsupportedColumn
    | some column => (columnsOf rest).map (column :: ·)

/-- The columns that a word list names. -/
def columns (text : String) : Except Refusal (List Column) :=
  columnsOf (words text)

end SalarySurvey.Query
