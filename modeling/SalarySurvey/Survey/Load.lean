import SalarySurvey.Survey
import SalarySurvey.Text.Utf8

/-!
# Loading the survey

A survey is read from the bytes of a file of comma separated values. The header must have one
field for each column, every record must have as many fields, and all fields must be UTF-8; the
first fault in the order of the file is reported. Then each column gets a kind from its cells that
are not missing: integers if all of them are, else finite real numbers, else texts; the timestamp
column always holds timestamps, and its first cell that is none is reported.
-/
namespace SalarySurvey

/-- The values of a list as one for each column, if there are that many. -/
def PerColumn.ofList? {α : Type} (values : List α) : Option (PerColumn α) :=
  if h : values.length = Column.count then some ⟨values.toArray, by simpa using h⟩ else none

/-- What the cells of a column hold. -/
inductive Kind where
  /-- Whole numbers. -/
  | integers
  /-- Finite binary64 numbers. -/
  | reals
  /-- Texts. -/
  | texts
  /-- Timestamps. -/
  | timestamps
  deriving DecidableEq

namespace Kind

/-- The integer in a cell text. -/
def integer? (text : String) : Option Int64 :=
  Numeral.int64? (Text.trimChars text.toList)

/-- The finite real number in a cell text. -/
def real? (text : String) : Option Binary64 :=
  (Numeral.real? (Text.trimChars text.toList)).filter Binary64.isFinite

/-- The kind that fits some cell texts. A column without values holds texts. -/
def ofTexts (cells : List String) : Kind :=
  let present := cells.filter fun text => !Cell.isMissingMarker text
  if present.isEmpty then Kind.texts
  else if present.all fun text => (integer? text).isSome then integers
  else if present.all fun text => (real? text).isSome then reals
  else Kind.texts

/-- The cell of a text in a column of a kind. -/
def cell (kind : Kind) (text : String) : Cell :=
  if Cell.isMissingMarker text then .missing
  else
    match kind with
    | integers => (integer? text).elim .missing .integer
    | reals => (real? text).elim .missing .real
    | texts => .text text
    | timestamps => (Timestamp.read? text).elim .missing .timestamp

end Kind

namespace Survey

/-- The texts of the fields of a record, from a field number on. -/
def fieldTexts (record : Nat) (start : Csv.Place) (field : Nat) :
    List Csv.Field → Except RecordError (List String)
  | [] => .ok []
  | bytes :: rest =>
    match Text.Utf8.decode bytes with
    | .error offset => .error (.notUtf8 record start field offset)
    | .ok text => (fieldTexts record start (field + 1) rest).map (String.ofList text :: ·)

/-- The texts of a record. -/
def recordTexts (number : Nat) (record : Csv.Record) : Except RecordError (List String) :=
  fieldTexts number record.start 0 record.fields

/-- The trimmed headers. -/
def readHeaders (record : Csv.Record) : Except LoadError (PerColumn String) := do
  let texts ← (recordTexts 0 record).mapError LoadError.unreadable
  match PerColumn.ofList? (texts.map Text.trim) with
  | some headers => .ok headers
  | none => .error (.columnCount texts.length)

/-- The texts of a data record. The number of fields is checked before their encoding. -/
def readRecord (number : Nat) (record : Csv.Record) : Except RecordError (PerColumn String) :=
  let ragged := .error (.ragged number record.start record.fields.length Column.count)
  if record.fields.length ≠ Column.count then ragged
  else do
    match PerColumn.ofList? (← recordTexts number record) with
    | some texts => .ok texts
    | none => ragged

/-- The texts of the data records, from a record number on. -/
def readRecords (number : Nat) : List Csv.Record → Except RecordError (List (PerColumn String))
  | [] => .ok []
  | record :: rest => do
    let texts ← readRecord number record
    let others ← readRecords (number + 1) rest
    .ok (texts :: others)

/-- The kind of each column. -/
def kinds (rows : List (PerColumn String)) : PerColumn Kind :=
  Vector.ofFn fun i =>
    if i = Column.timestamp.index then .timestamps else .ofTexts (rows.map fun row => row[i])

/-- Whether the timestamp cell of a row is missing or a timestamp. -/
def hasTimestamp (text : String) : Bool :=
  Cell.isMissingMarker text || (Timestamp.read? text).isSome

/-- The cells of a row. -/
def rowOf (kinds : PerColumn Kind) (texts : PerColumn String) : Row :=
  Vector.ofFn fun i => kinds[i].cell texts[i]

/-- The rows of cells, from a row number on. -/
def readRows (kinds : PerColumn Kind) (number : Nat) :
    List (PerColumn String) → Except LoadError (List Row)
  | [] => .ok []
  | texts :: rest =>
    if hasTimestamp (texts.at .timestamp) then
      (readRows kinds (number + 1) rest).map (rowOf kinds texts :: ·)
    else .error (.badTimestamp number (texts.at .timestamp))

/-- The survey with some headers and data records. -/
def ofRecords (header : Csv.Record) (data : List Csv.Record) : Except LoadError Survey := do
  let headers ← readHeaders header
  let texts ← (readRecords 1 data).mapError LoadError.unreadable
  let rows ← readRows (kinds texts) 1 texts
  .ok ⟨headers, rows⟩

/-- The survey in the bytes of a file. -/
def ofBytes (bytes : List UInt8) : Except LoadError Survey :=
  match Csv.records bytes with
  | [] => .error (.columnCount 0)
  | header :: data => ofRecords header data

/-- The survey in what a path led to. -/
def ofFile (path : String) (found : Except FileError FileEntry) : Except LoadError Survey :=
  match found with
  | .error reason => .error (.unopened path reason)
  | .ok entry =>
    match entry.bytes with
    | .error reason => .error (.unreadable (.unread reason))
    | .ok bytes => ofBytes bytes

end Survey

end SalarySurvey
