/-!
# Records of comma separated values

The bytes of a file as records of fields. A line feed or a carriage return ends a record, commas
separate its fields, and lines without any byte are skipped. A quote at the start of a field opens
a quoted part, in which commas and line ends belong to the field and two quotes stand for one. A
single quote closes that part; bytes after it belong to the field as they are, as does a quote
elsewhere. The end of the input ends whatever is open. A byte order mark at the front of the file
is dropped.

Every record carries the place where its reading began, right behind the byte that ended the
record before it.
-/
namespace SalarySurvey.Csv

/-- A place in a file. -/
structure Place where
  /-- The number of bytes before it. -/
  byte : Nat := 0
  /-- Its line, counted from one by line feeds. -/
  line : Nat := 1
  deriving DecidableEq

/-- The bytes of one field. -/
abbrev Field := List UInt8

/-- A record. -/
structure Record where
  /-- The fields, at least one. -/
  fields : List Field
  /-- Where its reading began. -/
  start : Place
  deriving DecidableEq

/-- The byte between fields. -/
def comma : UInt8 := 0x2C

/-- The byte around fields. -/
def quote : UInt8 := 0x22

/-- The line feed. -/
def lineFeed : UInt8 := 0x0A

/-- The carriage return. -/
def carriageReturn : UInt8 := 0x0D

/-- Whether a byte ends a record. -/
def isLineEnd (byte : UInt8) : Bool :=
  byte == lineFeed || byte == carriageReturn

/-- The place behind a byte. -/
def Place.after (place : Place) (byte : UInt8) : Place :=
  ⟨place.byte + 1, if byte = lineFeed then place.line + 1 else place.line⟩

/-- Where the reader stands in a record. -/
inductive Stage where
  /-- Before the first byte of a record. -/
  | between
  /-- Behind a comma. -/
  | fieldStart
  /-- In a field without quotes, or behind the quoted part of a field. -/
  | plain
  /-- In the quoted part of a field. -/
  | quoted
  /-- Behind a quote in the quoted part, which closes it unless another one follows. -/
  | quoteSeen
  deriving DecidableEq

/-- What a byte does. -/
inductive Move where
  /-- It belongs to the field. -/
  | keep (next : Stage)
  /-- It belongs to no field. -/
  | drop (next : Stage)
  /-- It ends the field. -/
  | endField
  /-- It ends the record. -/
  | endRecord
  deriving DecidableEq

/-- What a byte does outside of quotes. -/
def plainMove (byte : UInt8) : Move :=
  if byte = comma then .endField
  else if isLineEnd byte then .endRecord
  else .keep .plain

/-- What a byte does at a stage. -/
def move (stage : Stage) (byte : UInt8) : Move :=
  match stage with
  | .between =>
    if isLineEnd byte then .drop .between
    else if byte = quote then .drop .quoted
    else plainMove byte
  | .fieldStart => if byte = quote then .drop .quoted else plainMove byte
  | .plain => plainMove byte
  | .quoted => if byte = quote then .drop .quoteSeen else .keep .quoted
  | .quoteSeen => if byte = quote then .keep .quoted else plainMove byte

/-- The record that has been read so far. -/
structure Draft where
  /-- Where its reading began. -/
  start : Place
  /-- The finished fields, the last one first. -/
  done : List Field := []
  /-- The bytes of the field at hand, the last one first. -/
  bytes : Field := []

/-- A draft with its last field finished. -/
def Draft.endField (draft : Draft) : Draft :=
  { draft with done := draft.bytes.reverse :: draft.done, bytes := [] }

/-- The finished record. -/
def Draft.record (draft : Draft) : Record :=
  ⟨draft.endField.done.reverse, draft.start⟩

/-- The records of the bytes from a place on, with what has been read of the first one. -/
def scan (stage : Stage) (place : Place) (draft : Draft) : List UInt8 → List Record
  | [] => if stage = .between then [] else [draft.record]
  | byte :: rest =>
    let place := place.after byte
    match move stage byte with
    | .keep next => scan next place { draft with bytes := byte :: draft.bytes } rest
    | .drop next => scan next place draft rest
    | .endField => scan .fieldStart place draft.endField rest
    | .endRecord => draft.record :: scan .between place ⟨place, [], []⟩ rest

/-- The records of a file. -/
def records (bytes : List UInt8) : List Record :=
  match bytes with
  | 0xEF :: 0xBB :: 0xBF :: rest => scan .between { byte := 3 } ⟨{}, [], []⟩ rest
  | _ => scan .between {} ⟨{}, [], []⟩ bytes

end SalarySurvey.Csv
