import SalarySurvey.Proofs.Calendar

/-!
# Day numbers

The days of the calendar are numbered through, from the first day of year one. The number of a day
follows from its year by the rule of 4, 100 and 400 and from the days of the months before it. The
next day has the next number and the day before has the one before, across the ends of months and
years; so a number of days added to a date is added to its number, and with the minutes of a day
numbered too the same holds of a moment that is moved by some minutes. No two days share a number,
so the number says which day it is, and days are in order as their numbers are. With the seconds and
nanoseconds of a minute numbered too, the order of moments in time is that of their numbers.
-/
namespace SalarySurvey

/-- The number of days before a year, negative ahead of year one. -/
def daysBeforeYear (year : Int) : Int :=
  365 * (year - 1) + (year - 1) / 4 - (year - 1) / 100 + (year - 1) / 400

/-- The number of days of a year before a month. -/
def daysBeforeMonth (year : Int) : Nat → Nat
  | 0 => 0
  | month + 1 => daysBeforeMonth year month + daysInMonth year month

/-- The number of a day. -/
def dayNumber (year : Int) (month day : Nat) : Int :=
  daysBeforeYear year + daysBeforeMonth year month + day

/-- The first day of the year 1970. -/
example : dayNumber 1970 1 1 = 719163 := by decide

/-- Every month has 28 days. -/
theorem le_daysInMonth (year : Int) {month : Nat} (first : 1 ≤ month) (last : month ≤ 12) :
    28 ≤ daysInMonth year month := by
  have twelve : month ∈ List.range' 1 12 := by
    rw [List.mem_range'_1]
    omega
  have february : 28 ≤ if isLeapYear year then 29 else 28 := by
    split <;> decide
  simp only [List.range', List.mem_cons, List.not_mem_nil, or_false] at twelve
  rcases twelve with rfl | rfl | rfl | rfl | rfl | rfl | rfl | rfl | rfl | rfl | rfl | rfl
  case inr.inl => exact february
  all_goals exact Nat.le_of_ble_eq_true rfl

/-- A year has the days up to its twelfth month. -/
theorem daysBeforeYear_succ (year : Int) :
    daysBeforeYear (year + 1) = daysBeforeYear year + daysBeforeMonth year 13 := by
  have months : daysBeforeMonth year 13 = if isLeapYear year then 366 else 365 := by
    simp only [daysBeforeMonth, daysInMonth]
    split <;> rfl
  rw [months]
  unfold daysBeforeYear isLeapYear
  simp only [Bool.and_eq_true, Bool.or_eq_true, decide_eq_true_eq]
  split <;> omega

/-- The months of a year follow each other. -/
theorem daysBeforeMonth_le (year : Int) {month later : Nat} (before : month < later) :
    daysBeforeMonth year month + daysInMonth year month ≤ daysBeforeMonth year later := by
  induction later with
  | zero => omega
  | succ later ih =>
    rw [daysBeforeMonth]
    rcases Nat.lt_or_eq_of_le (Nat.le_of_lt_succ before) with earlier | rfl
    · have bound := ih earlier
      omega
    · exact Nat.le_refl _

/-- The years follow each other. -/
theorem daysBeforeYear_le {year later : Int} (before : year < later) :
    daysBeforeYear year + daysBeforeMonth year 13 ≤ daysBeforeYear later := by
  rw [← daysBeforeYear_succ]
  unfold daysBeforeYear
  omega

namespace Date

/-- The number of a date. -/
def number (date : Date) : Int := dayNumber date.year date.month date.day

/-- A date lies in its month, and its month in the year. -/
theorem bounds (date : Date) : 1 ≤ date.month ∧ date.month ≤ 12 ∧ 1 ≤ date.day ∧
    date.day ≤ daysInMonth date.year date.month := by
  have existing := date.exists_day
  have last := date.month_le
  simp only [dayExists, Bool.and_eq_true, decide_eq_true_eq] at existing
  refine ⟨?_, last, existing.1, existing.2⟩
  by_contra none_before
  have zero : date.month = 0 := by omega
  rw [zero] at existing
  have empty : daysInMonth date.year 0 = 0 := rfl
  omega

/-- Parts that exist make their date. -/
theorem ofParts?_eq_some {year : Int} {month day : Nat} {date : Date} :
    ofParts? year month day = some date ↔
      date.year = year ∧ date.month = month ∧ date.day = day := by
  unfold ofParts?
  constructor
  · intro found
    split at found
    · rw [← Option.some.inj found]
      exact ⟨rfl, rfl, rfl⟩
    · contradiction
  · rintro ⟨rfl, rfl, rfl⟩
    exact dif_pos date.exists_day

/-- Parts that do not exist make no date. -/
theorem ofParts?_eq_none {year : Int} {month day : Nat} :
    ofParts? year month day = none ↔ ¬(1 ≤ day ∧ day ≤ daysInMonth year month) := by
  rw [ofParts?, dite_eq_right_iff]
  simp [dayExists]

/-- Parts that exist make a date. -/
theorem ofParts?_of_exists {year : Int} {month day : Nat} (first : 1 ≤ day)
    (last : day ≤ daysInMonth year month) : ∃ date, ofParts? year month day = some date := by
  cases made : ofParts? year month day with
  | some date => exact ⟨date, rfl⟩
  | none => exact absurd ⟨first, last⟩ (ofParts?_eq_none.mp made)

/-- The parts of a date that was made of them give its number. -/
theorem number_of_ofParts? {year : Int} {month day : Nat} {date : Date}
    (made : ofParts? year month day = some date) : date.number = dayNumber year month day := by
  obtain ⟨rfl, rfl, rfl⟩ := ofParts?_eq_some.mp made
  rfl

/-- The next day has the next number. -/
theorem number_next (date : Date) : date.next.number = date.number + 1 := by
  obtain ⟨low, high, first, last⟩ := date.bounds
  unfold next number
  cases sameMonth : ofParts? date.year date.month (date.day + 1) with
  | some found =>
    change found.number = _
    rw [number_of_ofParts? sameMonth, dayNumber, dayNumber]
    omega
  | none =>
    -- The day is the last one of its month.
    have ended := ofParts?_eq_none.mp sameMonth
    cases nextMonth : ofParts? date.year (date.month + 1) 1 with
    | some found =>
      change found.number = _
      rw [number_of_ofParts? nextMonth, dayNumber, dayNumber, daysBeforeMonth]
      omega
    | none =>
      have december : date.month = 12 := by
        have short := ofParts?_eq_none.mp nextMonth
        by_contra earlier
        have long := le_daysInMonth date.year (show 1 ≤ date.month + 1 by omega) (by omega)
        omega
      have january : 1 ≤ daysInMonth (date.year + 1) 1 := Nat.le_of_ble_eq_true rfl
      obtain ⟨found, nextYear⟩ := ofParts?_of_exists (Nat.le_refl 1) january
      have length := daysBeforeYear_succ date.year
      rw [nextYear]
      change found.number = _
      rw [number_of_ofParts? nextYear, dayNumber, dayNumber, length]
      have start : daysBeforeMonth (date.year + 1) 1 = 0 := rfl
      have months : daysBeforeMonth date.year 13 =
          daysBeforeMonth date.year 12 + daysInMonth date.year 12 := rfl
      rw [december] at ended last
      rw [december, start, months]
      omega

/-- The day before has the number before. -/
theorem number_previous (date : Date) : date.previous.number = date.number - 1 := by
  obtain ⟨low, high, first, last⟩ := date.bounds
  unfold previous number
  cases sameMonth : ofParts? date.year date.month (date.day - 1) with
  | some found =>
    change found.number = _
    have exists_before : ¬ofParts? date.year date.month (date.day - 1) = none := by
      rw [sameMonth]
      exact Option.some_ne_none found
    rw [ofParts?_eq_none, not_not] at exists_before
    rw [number_of_ofParts? sameMonth, dayNumber, dayNumber]
    omega
  | none =>
    -- The day is the first one of its month.
    have started := ofParts?_eq_none.mp sameMonth
    unfold lastOf
    by_cases january : date.month - 1 = 0
    · have single : date.month = 1 := by omega
      obtain ⟨found, before⟩ :=
        @ofParts?_of_exists (date.year - 1) 12 31 (by decide) (Nat.le_refl 31)
      have length := daysBeforeYear_succ (date.year - 1)
      rw [Int.sub_add_cancel] at length
      rw [if_pos january, before]
      change found.number = _
      rw [number_of_ofParts? before, single, dayNumber, dayNumber, length]
      have start : daysBeforeMonth date.year 1 = 0 := rfl
      have months : daysBeforeMonth (date.year - 1) 13 =
          daysBeforeMonth (date.year - 1) 12 + 31 := rfl
      rw [start, months]
      omega
    · have long := le_daysInMonth date.year (show 1 ≤ date.month - 1 by omega) (by omega)
      obtain ⟨found, before⟩ := @ofParts?_of_exists date.year (date.month - 1)
        (daysInMonth date.year (date.month - 1)) (by omega) (Nat.le_refl _)
      rw [if_neg january, before]
      change found.number = _
      have next : date.month = date.month - 1 + 1 := by omega
      have months : daysBeforeMonth date.year date.month =
          daysBeforeMonth date.year (date.month - 1) +
            daysInMonth date.year (date.month - 1) := by
        rw [next]
        rfl
      rw [number_of_ofParts? before, dayNumber, dayNumber, months]
      omega

/-- Days that are added to a date are added to its number. -/
theorem number_addDays (date : Date) (days : Int) :
    (date.addDays days).number = date.number + days := by
  have forth (count : Nat) : (Nat.repeat next count date).number = date.number + count := by
    induction count with
    | zero => exact (Int.add_zero _).symm
    | succ count ih =>
      rw [Nat.repeat, number_next, ih]
      omega
  have back (count : Nat) : (Nat.repeat previous count date).number = date.number - count := by
    induction count with
    | zero => exact (Int.sub_zero _).symm
    | succ count ih =>
      rw [Nat.repeat, number_previous, ih]
      omega
  cases days with
  | ofNat days => exact forth days
  | negSucc days =>
    rw [addDays, back, Int.negSucc_eq]
    omega

/-- Within its year the number of a day is not above the months of the year. -/
theorem daysBeforeMonth_add_day_le (date : Date) :
    daysBeforeMonth date.year date.month + date.day ≤ daysBeforeMonth date.year 13 := by
  have bounds := date.bounds
  have months := daysBeforeMonth_le date.year (show date.month < 13 by omega)
  omega

/-- A day of an earlier year has a smaller number. -/
theorem number_lt_of_year_lt {date other : Date} (before : date.year < other.year) :
    date.number < other.number := by
  have within := date.daysBeforeMonth_add_day_le
  have years := daysBeforeYear_le before
  have bounds := other.bounds
  unfold number dayNumber
  omega

/-- A day of an earlier month of the year has a smaller number. -/
theorem number_lt_of_month_lt {date other : Date} (year : date.year = other.year)
    (before : date.month < other.month) : date.number < other.number := by
  have months := daysBeforeMonth_le date.year before
  have bounds := date.bounds
  have bounds' := other.bounds
  unfold number dayNumber
  rw [← year]
  omega

/-- Within a month numbers differ as days do. -/
theorem number_sub_day {date other : Date} (year : date.year = other.year)
    (month : date.month = other.month) : date.number - date.day = other.number - other.day := by
  unfold number dayNumber
  rw [year, month]
  omega

/-- The order in time is the order of the numbers. -/
theorem compare_number (date other : Date) :
    Ord.compare date.number other.number = date.compare other := by
  unfold compare
  rcases Int.lt_trichotomy date.year other.year with before | year | after
  · rw [Int.compare_eq_lt.mpr before, Int.compare_eq_lt.mpr (number_lt_of_year_lt before)]
    rfl
  · rw [year, Std.compare_self, Ordering.eq_then]
    rcases Nat.lt_trichotomy date.month other.month with before | month | after
    · rw [Nat.compare_eq_lt.mpr before, Int.compare_eq_lt.mpr (number_lt_of_month_lt year before)]
      rfl
    · have days := number_sub_day year month
      have shifted : date.number < other.number ↔ date.day < other.day := by omega
      have reversed : other.number < date.number ↔ other.day < date.day := by omega
      rw [month, Std.compare_self, Ordering.eq_then, Int.compare_eq_ite_lt, Nat.compare_eq_ite_lt]
      simp only [shifted, reversed]
    · rw [Nat.compare_eq_gt.mpr after,
        Int.compare_eq_gt.mpr (number_lt_of_month_lt year.symm after)]
      rfl
  · rw [Int.compare_eq_gt.mpr after, Int.compare_eq_gt.mpr (number_lt_of_year_lt after)]
    rfl

/-- Dates of one number are one date. -/
theorem number_injective {date other : Date} (same : date.number = other.number) :
    date = other := by
  have level := compare_number date other
  rw [same, Std.compare_self, eq_comm, compare, Ordering.then_eq_eq, Ordering.then_eq_eq] at level
  obtain ⟨year, month, day⟩ := level
  have made := ofParts?_self date
  rw [Std.compare_eq_iff_eq.mp year, Std.compare_eq_iff_eq.mp month, Std.compare_eq_iff_eq.mp day,
    ofParts?_self] at made
  exact (Option.some.inj made).symm

end Date

/-- A time is made of parts that a day has. -/
theorem TimeOfDay.ofParts?_eq_some {hour minute second nano : Nat} {time : TimeOfDay} :
    ofParts? hour minute second nano = some time ↔
      time.hour = hour ∧ time.minute = minute ∧ time.second = second ∧ time.nano = nano := by
  unfold ofParts?
  constructor
  · intro found
    split at found
    · rw [← Option.some.inj found]
      exact ⟨rfl, rfl, rfl, rfl⟩
    · contradiction
  · rintro ⟨rfl, rfl, rfl, rfl⟩
    exact dif_pos ⟨time.hour_lt, time.minute_lt, time.second_le, time.nano_lt⟩

namespace Timestamp

/-- The number of the minute of a moment. -/
def minutes (t : Timestamp) : Int := t.date.number * 1440 + t.time.hour * 60 + t.time.minute

/-- A moment moved back by some minutes has as many less. -/
theorem minutes_backMinutes (t : Timestamp) (count : Int) :
    (t.backMinutes count).minutes = t.minutes - count := by
  unfold minutes backMinutes
  simp only [Date.number_addDays]
  omega

/-- Moments of one minute, one second and one nanosecond are one moment. -/
theorem eq_of_minutes {t u : Timestamp} (minute : t.minutes = u.minutes)
    (second : t.time.second = u.time.second) (nano : t.time.nano = u.time.nano) : t = u := by
  obtain ⟨date, hour, minute', _, _, hour_lt, minute_lt, _, _⟩ := t
  obtain ⟨date', hour', minute'', _, _, hour_lt', minute_lt', _, _⟩ := u
  simp only [minutes] at minute second nano
  have day : date.number = date'.number := by omega
  obtain rfl := Date.number_injective day
  obtain rfl : hour = hour' := by omega
  obtain rfl : minute' = minute'' := by omega
  obtain rfl := second
  obtain rfl := nano
  rfl

/-- The number of a moment in nanoseconds, with a place for the leap second of every minute. -/
def instant (t : Timestamp) : Int :=
  (t.minutes * 61 + t.time.second) * 1000000000 + t.time.nano

/-- Numbers with a less significant part below a bound are ordered by both parts. -/
theorem compare_mul_add {bound : Int} (a b : Int) {x y : Nat} (x_lt : x < bound)
    (y_lt : y < bound) :
    Ord.compare (a * bound + x) (b * bound + y) =
      (Ord.compare a b).then (Ord.compare x y) := by
  have above {a b : Int} {x : Nat} (y : Nat) (x_lt : x < bound) (less : a < b) :
      a * bound + x < b * bound + y := by
    have next : (a + 1) * bound ≤ b * bound :=
      Int.mul_le_mul_of_nonneg_right less (by omega)
    rw [Int.add_mul, Int.one_mul] at next
    omega
  rcases Int.lt_trichotomy a b with less | rfl | greater
  · rw [Int.compare_eq_lt.mpr less, Int.compare_eq_lt.mpr (above y x_lt less)]
    rfl
  · have shifted : a * bound + x < a * bound + y ↔ x < y := by omega
    have reversed : a * bound + y < a * bound + x ↔ y < x := by omega
    rw [Std.compare_self, Ordering.eq_then, Int.compare_eq_ite_lt, Nat.compare_eq_ite_lt]
    simp only [shifted, reversed]
  · rw [Int.compare_eq_gt.mpr greater, Int.compare_eq_gt.mpr (above x y_lt greater)]
    rfl

/-- The order in time is the order of the numbers. -/
theorem compare_instant (t u : Timestamp) :
    Ord.compare t.instant u.instant = t.compare u := by
  have parts (t : Timestamp) : t.minutes = (t.date.number * 24 + t.time.hour) * 60 + t.time.minute := by
    unfold minutes
    omega
  have hour (t : Timestamp) : (t.time.hour : Int) < 24 := Int.ofNat_lt.mpr t.time.hour_lt
  have minute (t : Timestamp) : (t.time.minute : Int) < 60 := Int.ofNat_lt.mpr t.time.minute_lt
  have second (t : Timestamp) : (t.time.second : Int) < 61 :=
    Int.ofNat_lt.mpr (Nat.lt_succ_of_le t.time.second_le)
  have nano (t : Timestamp) : (t.time.nano : Int) < 1000000000 := Int.ofNat_lt.mpr t.time.nano_lt
  rw [instant, instant, compare_mul_add _ _ (nano t) (nano u),
    compare_mul_add _ _ (second t) (second u), parts, parts,
    compare_mul_add _ _ (minute t) (minute u), compare_mul_add _ _ (hour t) (hour u),
    Date.compare_number, compare, TimeOfDay.compare]
  simp only [Ordering.then_assoc]

/-- Only one moment is neither earlier nor later than a moment. -/
theorem compare_eq_iff {t u : Timestamp} : t.compare u = .eq ↔ t = u := by
  constructor
  · intro level
    rw [← compare_instant, Std.compare_eq_iff_eq] at level
    have second := t.time.second_le
    have second' := u.time.second_le
    have nano := t.time.nano_lt
    have nano' := u.time.nano_lt
    unfold instant at level
    exact eq_of_minutes (by omega) (by omega) (by omega)
  · rintro rfl
    rw [← compare_instant, Std.compare_self]

end Timestamp

end SalarySurvey
