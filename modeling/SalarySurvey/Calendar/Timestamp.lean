import SalarySurvey.Calendar.Date

/-!
# Timestamps

A timestamp is a date and a time of day without a zone. The second 60 is a leap second and may
follow any minute. Timestamps are ordered by date, hour, minute, second and nanosecond, so a leap
second lies between the second 59 before it and the minute after it.
-/
namespace SalarySurvey

/-- A time of day. -/
structure TimeOfDay where
  /-- The hour. -/
  hour : Nat
  /-- The minute. -/
  minute : Nat
  /-- The second; 60 is a leap second. -/
  second : Nat
  /-- The nanosecond. -/
  nano : Nat
  /-- A day has 24 hours. -/
  hour_lt : hour < 24 := by decide
  /-- An hour has 60 minutes. -/
  minute_lt : minute < 60 := by decide
  /-- A minute has 60 seconds or 61. -/
  second_le : second ≤ 60 := by decide
  /-- A second has a billion nanoseconds. -/
  nano_lt : nano < 1000000000 := by decide
  deriving DecidableEq

namespace TimeOfDay

/-- The first moment of a day. -/
def midnight : TimeOfDay := ⟨0, 0, 0, 0, by decide, by decide, by decide, by decide⟩

/-- The time with some parts, if a day has it. -/
def ofParts? (hour minute second nano : Nat) : Option TimeOfDay :=
  if h : hour < 24 ∧ minute < 60 ∧ second ≤ 60 ∧ nano < 1000000000 then
    some ⟨hour, minute, second, nano, h.1, h.2.1, h.2.2.1, h.2.2.2⟩
  else none

/-- The order within a day. -/
def compare (a b : TimeOfDay) : Ordering :=
  (Ord.compare a.hour b.hour).then <| (Ord.compare a.minute b.minute).then <|
    (Ord.compare a.second b.second).then <| Ord.compare a.nano b.nano

end TimeOfDay

/-- A moment of local time. -/
structure Timestamp where
  /-- The day. -/
  date : Date
  /-- The time of that day. -/
  time : TimeOfDay
  deriving DecidableEq

namespace Timestamp

/-- The order in time. -/
def compare (a b : Timestamp) : Ordering :=
  (a.date.compare b.date).then (a.time.compare b.time)

/-- The moment a number of minutes earlier; a negative number moves it later. Seconds are kept,
leap seconds too. -/
def backMinutes (t : Timestamp) (minutes : Int) : Timestamp :=
  let total := t.time.hour * 60 + t.time.minute - minutes
  let ofDay := (total % 1440).toNat
  have ofDay_lt : ofDay < 1440 := by omega
  { date := t.date.addDays (total / 1440)
    time :=
      { t.time with
        hour := ofDay / 60
        minute := ofDay % 60
        hour_lt := by omega
        minute_lt := by omega } }

/-- A natural number with zeros in front up to a width. -/
def padded (width n : Nat) : List Char :=
  let digits := Nat.toDigits 10 n
  List.replicate (width - digits.length) '0' ++ digits

/-- A year: four digits, and a sign in front of a year that is negative or has more than four. -/
def writeYear (year : Int) : List Char :=
  if 0 ≤ year ∧ year ≤ 9999 then padded 4 year.natAbs
  else (if year < 0 then '-' else '+') :: padded 4 year.natAbs

/-- A timestamp as `YYYY-MM-DDThh:mm:ss`, without its fraction. -/
def writeChars (t : Timestamp) : List Char :=
  writeYear t.date.year ++ '-' :: padded 2 t.date.month ++ '-' :: padded 2 t.date.day ++
    'T' :: padded 2 t.time.hour ++ ':' :: padded 2 t.time.minute ++ ':' :: padded 2 t.time.second

/-- The rendered timestamp. -/
def render (t : Timestamp) : String :=
  String.ofList t.writeChars

end Timestamp

end SalarySurvey
