import SalarySurvey.Csv.Record

/-!
# Writing comma separated values

A file with every field in quotes. A quote inside a field is written twice, fields are joined by
commas, and every record ends with the same line end.
-/
namespace SalarySurvey.Csv

/-- How records end. -/
inductive LineEnd where
  /-- A line feed. -/
  | lineFeed
  /-- A carriage return and a line feed. -/
  | carriageReturnLineFeed
  deriving DecidableEq

/-- The bytes of a line end. -/
def LineEnd.bytes : LineEnd → List UInt8
  | .lineFeed => [Csv.lineFeed]
  | .carriageReturnLineFeed => [Csv.carriageReturn, Csv.lineFeed]

/-- The bytes of a field with its quotes doubled. -/
def doubleQuotes (field : Field) : List UInt8 :=
  field.flatMap fun byte => if byte = quote then [quote, quote] else [byte]

/-- A field in quotes. -/
def writeField (field : Field) : List UInt8 :=
  quote :: doubleQuotes field ++ [quote]

/-- The fields of a record with commas between them. -/
def writeFields : List Field → List UInt8
  | [] => []
  | [field] => writeField field
  | field :: rest => writeField field ++ comma :: writeFields rest

/-- A file with some records. -/
def write (lineEnd : LineEnd) (records : List (List Field)) : List UInt8 :=
  records.flatMap fun fields => writeFields fields ++ lineEnd.bytes

end SalarySurvey.Csv
