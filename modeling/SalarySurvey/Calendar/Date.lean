/-!
# Dates

A date of the proleptic Gregorian calendar, in which every year has its leap day by the rule of
4, 100 and 400 and the year before year one is year zero. A date carries the proof that its day
exists, so dates differ exactly when one of their three parts does. Dates are ordered by year,
month and day.
-/
namespace SalarySurvey

/-- Whether a year has a leap day. -/
def isLeapYear (year : Int) : Bool :=
  year % 4 = 0 && (year % 100 ≠ 0 || year % 400 = 0)

/-- The number of days of a month, and zero for a number that is no month. -/
def daysInMonth (year : Int) (month : Nat) : Nat :=
  match month with
  | 1 | 3 | 5 | 7 | 8 | 10 | 12 => 31
  | 4 | 6 | 9 | 11 => 30
  | 2 => if isLeapYear year then 29 else 28
  | _ => 0

/-- Whether a year has a day. A number that is no month has no days, so this rules it out. -/
def dayExists (year : Int) (month day : Nat) : Bool :=
  1 ≤ day && day ≤ daysInMonth year month

/-- A day of the calendar. -/
structure Date where
  /-- The year, zero and negative ones included. -/
  year : Int
  /-- The month, from one. -/
  month : Nat
  /-- The day of the month, from one. -/
  day : Nat
  /-- The day exists in its month. -/
  exists_day : dayExists year month day = true := by decide
  deriving DecidableEq

namespace Date

/-- The date with some parts, if the calendar has it. -/
def ofParts? (year : Int) (month day : Nat) : Option Date :=
  if h : dayExists year month day then some ⟨year, month, day, h⟩ else none

/-- The order in time. -/
def compare (a b : Date) : Ordering :=
  (Ord.compare a.year b.year).then <| (Ord.compare a.month b.month).then <| Ord.compare a.day b.day

/-- The last day of a month, and of the year before it for the number zero. -/
def lastOf (year : Int) (month : Nat) : Option Date :=
  if month = 0 then ofParts? (year - 1) 12 31 else ofParts? year month (daysInMonth year month)

/-- The day after a date. -/
def next (date : Date) : Date :=
  ((ofParts? date.year date.month (date.day + 1)).or
    ((ofParts? date.year (date.month + 1) 1).or (ofParts? (date.year + 1) 1 1))).getD date

/-- The day before a date. -/
def previous (date : Date) : Date :=
  ((ofParts? date.year date.month (date.day - 1)).or (lastOf date.year (date.month - 1))).getD date

/-- The date a number of days after another one; a negative number counts back. -/
def addDays (date : Date) : Int → Date
  | .ofNat days => Nat.repeat next days date
  | .negSucc days => Nat.repeat previous (days + 1) date

end Date

end SalarySurvey
