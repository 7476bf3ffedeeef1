import SalarySurvey.Calendar.Timestamp
import SalarySurvey.Number.Numeral
import SalarySurvey.Text.Blank

/-!
# Layouts of timestamps

A layout is the row of fields and marks that a text of a timestamp has. `Timestamp.read?` trims
the text and tries eleven layouts in a fixed order: seven with a date and a time, the internet
format of RFC 3339, which carries an offset and is read as universal time, and three with a date
alone, which stand for its midnight. The first layout that fits the whole text and names a day
and a time that exist gives the answer.

A number skips blanks in front of it and takes one or two digits; a year takes up to four, or any
number after a sign. A gap between date and time is any run of blanks, also none. In the internet
format the widths are fixed and nothing is skipped.
-/
namespace SalarySurvey.Layout

open Text (trimStart)

/-- One part of a layout. -/
inductive Part where
  /-- The year. -/
  | year
  /-- The month. -/
  | month
  /-- The day of the month. -/
  | day
  /-- The hour. -/
  | hour
  /-- The minute. -/
  | minute
  /-- The second. -/
  | second
  /-- The digits of a fraction after a point, or nothing. -/
  | fraction
  /-- Any run of blanks, also none. -/
  | gap
  /-- One given character. -/
  | mark (c : Char)
  deriving DecidableEq

/-- The numbers that a text gave to the parts of a layout; a part that the layout lacks is
zero. -/
structure Fields where
  /-- The year. -/
  year : Int := 0
  /-- The month. -/
  month : Nat := 0
  /-- The day of the month. -/
  day : Nat := 0
  /-- The hour. -/
  hour : Nat := 0
  /-- The minute. -/
  minute : Nat := 0
  /-- The second. -/
  second : Nat := 0
  /-- The nanosecond. -/
  nano : Nat := 0

/-- The timestamp of some fields, if its day and its time exist and the year lies in the range of
the calendar, `-262143` to `262142`. -/
def Fields.timestamp? (fields : Fields) : Option Timestamp := do
  if fields.year < -262143 ∨ 262142 < fields.year then none
  else
    let date ← Date.ofParts? fields.year fields.month fields.day
    let time ← TimeOfDay.ofParts? fields.hour fields.minute fields.second fields.nano
    some ⟨date, time⟩

/-- The digits at the front of a text, at most a number of them, and the rest. -/
def digitsUpTo : Nat → List Char → List Char × List Char
  | 0, text => ([], text)
  | _ + 1, [] => ([], [])
  | most + 1, c :: rest =>
    if c.isDigit then
      let (digits, rest) := digitsUpTo most rest
      (c :: digits, rest)
    else ([], c :: rest)

/-- A number of at least one and at most a given number of digits. -/
def number? (most : Nat) (text : List Char) : Option (Nat × List Char) :=
  let (digits, rest) := digitsUpTo most text
  if digits.isEmpty then none else some (Numeral.value digits, rest)

/-- A number of one or two digits behind any blanks. -/
def field? (text : List Char) : Option (Nat × List Char) :=
  number? 2 (trimStart text)

/-- A year behind any blanks: up to four digits, or a sign and any number of digits. -/
def year? (text : List Char) : Option (Int × List Char) :=
  match trimStart text with
  | '-' :: rest => (number? rest.length rest).map fun (n, rest) => (-(n : Int), rest)
  | '+' :: rest => (number? rest.length rest).map fun (n, rest) => ((n : Int), rest)
  | text => (number? 4 text).map fun (n, rest) => ((n : Int), rest)

/-- The nanoseconds of the digits of a fraction; digits after the ninth are dropped. -/
def nanoseconds (digits : List Char) : Nat :=
  let kept := digits.take 9
  Numeral.value kept * Nat.pow 10 (9 - kept.length)

/-- A point and at least one digit, read as nanoseconds, or no point and zero. -/
def fraction? : List Char → Option (Nat × List Char)
  | '.' :: rest =>
    let digits := rest.takeWhile Char.isDigit
    if digits.isEmpty then none else some (nanoseconds digits, rest.dropWhile Char.isDigit)
  | text => some (0, text)

/-- A given character. -/
def mark? (c : Char) : List Char → Option (List Char)
  | [] => none
  | d :: rest => if d = c then some rest else none

/-- One part at the front of a text. -/
def Part.read? (part : Part) (fields : Fields) (text : List Char) :
    Option (Fields × List Char) :=
  match part with
  | .year => (year? text).map fun (n, rest) => ({ fields with year := n }, rest)
  | .month => (field? text).map fun (n, rest) => ({ fields with month := n }, rest)
  | .day => (field? text).map fun (n, rest) => ({ fields with day := n }, rest)
  | .hour => (field? text).map fun (n, rest) => ({ fields with hour := n }, rest)
  | .minute => (field? text).map fun (n, rest) => ({ fields with minute := n }, rest)
  | .second => (field? text).map fun (n, rest) => ({ fields with second := n }, rest)
  | .fraction => (fraction? text).map fun (n, rest) => ({ fields with nano := n }, rest)
  | .gap => some (fields, trimStart text)
  | .mark c => (mark? c text).map fun rest => (fields, rest)

/-- The parts of a layout one after another, up to the end of the text. -/
def readParts? : List Part → Fields → List Char → Option Fields
  | [], fields, [] => some fields
  | [], _, _ :: _ => none
  | part :: parts, fields, text => do
    let (fields, rest) ← part.read? fields text
    readParts? parts fields rest

/-- A text of a layout. -/
def read? (parts : List Part) (text : List Char) : Option Timestamp := do
  let fields ← readParts? parts {} text
  fields.timestamp?

/-- Year, month and day with a mark between them. -/
def yearFirst (c : Char) : List Part := [.year, .mark c, .month, .mark c, .day]

/-- Month, day and year with slashes between them. -/
def monthFirst : List Part := [.month, .mark '/', .day, .mark '/', .year]

/-- Hour and minute. -/
def clock : List Part := [.hour, .mark ':', .minute]

/-- Hour, minute and second. -/
def clockWithSecond : List Part := clock ++ [.mark ':', .second]

/-- The layouts with a date and a time, in the order in which they are tried. -/
def withTime : List (List Part) :=
  [monthFirst ++ .gap :: clockWithSecond,
   monthFirst ++ .gap :: clock,
   yearFirst '-' ++ .gap :: clockWithSecond,
   yearFirst '-' ++ .mark 'T' :: clockWithSecond,
   yearFirst '-' ++ .gap :: clockWithSecond ++ [.fraction],
   yearFirst '-' ++ .mark 'T' :: clockWithSecond ++ [.fraction],
   yearFirst '/' ++ .gap :: clockWithSecond]

/-- The layouts with a date alone, in the order in which they are tried. -/
def dateOnly : List (List Part) :=
  [yearFirst '-', monthFirst, yearFirst '/']

/-- A number of exactly the given width. -/
def exactly? (width : Nat) (text : List Char) : Option (Nat × List Char) :=
  let (digits, rest) := digitsUpTo width text
  if digits.length = width then some (Numeral.value digits, rest) else none

/-- An offset from universal time in minutes: the letter Z, or a sign, hours and minutes. The
minutes are below 60 and the hours below 24. The minus may be the sign of mathematics too. -/
def offset? : List Char → Option (Int × List Char)
  | [] => none
  | c :: rest =>
    if c = 'Z' ∨ c = 'z' then some (0, rest)
    else if c = '+' ∨ c = '-' ∨ c = '\u2212' then do
      let (hours, rest) ← exactly? 2 rest
      let rest ← mark? ':' rest
      let (minutes, rest) ← exactly? 2 rest
      let total : Int := hours * 60 + minutes
      if hours < 24 ∧ minutes < 60 then some (if c = '+' then total else -total, rest) else none
    else none

/-- A text of the internet format, as universal time. -/
def internet? (text : List Char) : Option Timestamp := do
  let (year, rest) ← exactly? 4 text
  let rest ← mark? '-' rest
  let (month, rest) ← exactly? 2 rest
  let rest ← mark? '-' rest
  let (day, rest) ← exactly? 2 rest
  let rest ← (mark? 'T' rest).or ((mark? 't' rest).or (mark? ' ' rest))
  let (hour, rest) ← exactly? 2 rest
  let rest ← mark? ':' rest
  let (minute, rest) ← exactly? 2 rest
  let rest ← mark? ':' rest
  let (second, rest) ← exactly? 2 rest
  let (nano, rest) ← fraction? rest
  let (offset, rest) ← offset? rest
  let timestamp ← Fields.timestamp? ⟨year, month, day, hour, minute, second, nano⟩
  if rest.isEmpty then some (timestamp.backMinutes offset) else none

end SalarySurvey.Layout

namespace SalarySurvey.Timestamp

/-- A timestamp in the first layout that fits the trimmed characters. -/
def readChars? (text : List Char) : Option Timestamp :=
  let text := Text.trimChars text
  (Layout.withTime.findSome? fun parts => Layout.read? parts text).or
    ((Layout.internet? text).or (Layout.dateOnly.findSome? fun parts => Layout.read? parts text))

/-- The timestamp that a text names, if it has one of the layouts. -/
def read? (text : String) : Option Timestamp :=
  readChars? text.toList

end SalarySurvey.Timestamp
