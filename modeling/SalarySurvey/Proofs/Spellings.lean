import SalarySurvey.Proofs.DayNumbers
import SalarySurvey.Proofs.Runs

/-!
# Spellings of a moment

A moment is spelled in eight ways: the date with slashes or hyphens, with a time or alone, and in
the internet format with an offset. The year has four digits; the other numbers are written with
or without a zero in front, except in the internet format, where they have two digits.

The layouts read a spelling part by part. A written number fits a part of two digits exactly when
it is below a hundred, and every number of a timestamp is. A year of four digits never fits such a
part, so a day cannot stand where the year is.
-/
namespace SalarySurvey.Layout

open Timestamp (padded)

/-- A number without zeros in front, or filled up to two digits. -/
def Written (n : Nat) (run : List Char) : Prop :=
  run = Nat.toDigits 10 n ∨ run = padded 2 n

/-- Nothing, or a point and up to nine digits, which filled up to nine with zeros are the
nanoseconds. -/
inductive Fraction : Nat → List Char → Prop where
  /-- No fraction. -/
  | none : Fraction 0 []
  /-- The point and the digits. -/
  | digits {digits : List Char} (filled : digits ≠ []) (numeric : ∀ c ∈ digits, c.isDigit = true)
      (fits : digits.length ≤ 9) :
      Fraction (Nat.ofDigitChars 10 (digits ++ List.replicate (9 - digits.length) '0') 0)
        ('.' :: digits)

/-- An offset from universal time of less than a day, in minutes. -/
inductive Zone : Int → List Char → Prop where
  /-- Universal time. -/
  | universal : Zone 0 ['Z']
  /-- Ahead of universal time. -/
  | ahead {hours minutes : Nat} (hours_lt : hours < 24) (minutes_lt : minutes < 60) :
      Zone (hours * 60 + minutes) ('+' :: padded 2 hours ++ ':' :: padded 2 minutes)
  /-- Behind universal time. -/
  | behind {hours minutes : Nat} (hours_lt : hours < 24) (minutes_lt : minutes < 60) :
      Zone (-(hours * 60 + minutes)) ('-' :: padded 2 hours ++ ':' :: padded 2 minutes)

/-- The spellings of a day with an hour, a minute, a second, a nanosecond and an offset in minutes.
The day and the time need not exist. -/
inductive Spells (year month day : Nat) :
    Nat → Nat → Nat → Nat → Int → List Char → Prop where
  /-- Month, day, year and the time up to the second. -/
  | monthFirst {hour minute second : Nat} {m d h i s : List Char} (monthRun : Written month m)
      (dayRun : Written day d) (hourRun : Written hour h) (minuteRun : Written minute i)
      (secondRun : Written second s) :
      Spells year month day hour minute second 0 0
        (m ++ '/' :: d ++ '/' :: padded 4 year ++ ' ' :: h ++ ':' :: i ++ ':' :: s)
  /-- Month, day, year and the time up to the minute. -/
  | monthFirstMinute {hour minute : Nat} {m d h i : List Char} (monthRun : Written month m)
      (dayRun : Written day d) (hourRun : Written hour h) (minuteRun : Written minute i) :
      Spells year month day hour minute 0 0 0
        (m ++ '/' :: d ++ '/' :: padded 4 year ++ ' ' :: h ++ ':' :: i)
  /-- Year, month and day with hyphens, a blank or the letter, and the time up to a fraction. -/
  | hyphens {hour minute second nano : Nat} {between : Char} {m d h i s f : List Char}
      (listed : between = ' ' ∨ between = 'T') (monthRun : Written month m)
      (dayRun : Written day d) (hourRun : Written hour h) (minuteRun : Written minute i)
      (secondRun : Written second s) (fraction : Fraction nano f) :
      Spells year month day hour minute second nano 0
        (padded 4 year ++ '-' :: m ++ '-' :: d ++ between :: h ++ ':' :: i ++ ':' :: s ++ f)
  /-- Year, month and day with slashes and the time up to the second. -/
  | yearFirst {hour minute second : Nat} {m d h i s : List Char} (monthRun : Written month m)
      (dayRun : Written day d) (hourRun : Written hour h) (minuteRun : Written minute i)
      (secondRun : Written second s) :
      Spells year month day hour minute second 0 0
        (padded 4 year ++ '/' :: m ++ '/' :: d ++ ' ' :: h ++ ':' :: i ++ ':' :: s)
  /-- Year, month and day with hyphens, alone. -/
  | hyphensDate {m d : List Char} (monthRun : Written month m) (dayRun : Written day d) :
      Spells year month day 0 0 0 0 0 (padded 4 year ++ '-' :: m ++ '-' :: d)
  /-- Month, day and year, alone. -/
  | monthFirstDate {m d : List Char} (monthRun : Written month m) (dayRun : Written day d) :
      Spells year month day 0 0 0 0 0 (m ++ '/' :: d ++ '/' :: padded 4 year)
  /-- Year, month and day with slashes, alone. -/
  | yearFirstDate {m d : List Char} (monthRun : Written month m) (dayRun : Written day d) :
      Spells year month day 0 0 0 0 0 (padded 4 year ++ '/' :: m ++ '/' :: d)
  /-- The internet format, with two digits for each number behind the year. -/
  | internet {hour minute second nano : Nat} {offset : Int} {f z : List Char}
      (month_lt : month < 100) (day_lt : day < 100) (hour_lt : hour < 100)
      (minute_lt : minute < 100) (second_lt : second < 100) (fraction : Fraction nano f)
      (zone : Zone offset z) :
      Spells year month day hour minute second nano offset
        (padded 4 year ++ '-' :: padded 2 month ++ '-' :: padded 2 day ++ 'T' :: padded 2 hour ++
          ':' :: padded 2 minute ++ ':' :: padded 2 second ++ f ++ z)

section Numbers

variable {n width : Nat} {run : List Char}

/-- A padded number is a run. -/
theorem isRun_padded : IsRun (padded width n) :=
  ⟨Timestamp.padded_ne_nil, Timestamp.isDigit_of_mem_padded⟩

/-- A written number is a run. -/
theorem Written.isRun (written : Written n run) : IsRun run := by
  rcases written with rfl | rfl
  · exact ⟨Nat.toDigits_ne_nil, Numeral.isDigit_of_mem_toDigits⟩
  · exact isRun_padded

/-- A written number has its value. -/
theorem Written.value_eq (written : Written n run) : Numeral.value run = n := by
  rcases written with rfl | rfl
  · exact Numeral.value_toDigits n
  · exact Timestamp.value_padded

/-- A written number has two digits at most when it is below a hundred. -/
theorem Written.length_le (written : Written n run) : run.length ≤ 2 ↔ n < 100 := by
  have few : (Nat.toDigits 10 n).length ≤ 2 ↔ n < 100 :=
    Nat.length_toDigits_le_iff (by decide) (by decide)
  rcases written with rfl | rfl
  · exact few
  · rw [← few, padded, List.length_append, List.length_replicate]
    omega

end Numbers

section Named

variable {fields : Fields} {t : Timestamp}

/-- Fields name the timestamp that has them as its parts. -/
theorem timestamp?_eq_some : fields.timestamp? = some t ↔
    (-262143 ≤ fields.year ∧ fields.year ≤ 262142) ∧
      (t.date.year = fields.year ∧ t.date.month = fields.month ∧ t.date.day = fields.day) ∧
      t.time.hour = fields.hour ∧ t.time.minute = fields.minute ∧
        t.time.second = fields.second ∧ t.time.nano = fields.nano := by
  unfold Fields.timestamp?
  split
  · next outside =>
    constructor
    · exact fun found => nomatch found
    · rintro ⟨ranged, -⟩
      omega
  · next ranged =>
    simp only [bind, Option.bind_eq_some_iff, Date.ofParts?_eq_some, TimeOfDay.ofParts?_eq_some]
    constructor
    · rintro ⟨date, dated, time, timed, built⟩
      rw [← Option.some.inj built]
      exact ⟨by omega, dated, timed⟩
    · rintro ⟨-, dated, timed⟩
      exact ⟨t.date, dated, t.time, timed, rfl⟩

/-- Fields that name a timestamp are a day and a time that exist. -/
theorem exists_of_timestamp? (named : fields.timestamp? = some t) :
    dayExists fields.year fields.month fields.day = true ∧ fields.hour < 24 ∧
      fields.minute < 60 ∧ fields.second ≤ 60 := by
  obtain ⟨-, ⟨year, month, day⟩, hour, minute, second, -⟩ := timestamp?_eq_some.mp named
  rw [← year, ← month, ← day, ← hour, ← minute, ← second]
  exact ⟨t.date.exists_day, t.time.hour_lt, t.time.minute_lt, t.time.second_le⟩

/-- They have two digits at most, apart from the year. -/
theorem short_of_timestamp? (named : fields.timestamp? = some t) :
    (fields.month < 100 ∧ fields.day < 100) ∧
      fields.hour < 100 ∧ fields.minute < 100 ∧ fields.second < 100 := by
  obtain ⟨-, ⟨-, month, day⟩, -⟩ := timestamp?_eq_some.mp named
  have month_le := t.date.month_le
  have day_le := t.date.day_le
  have time := (exists_of_timestamp? named).2
  omega

/-- A layout that takes the fields at least when they are short names what they name. -/
theorem read?_of_short {parts : List Part} {text : List Char} {short : Prop} [Decidable short]
    (reads : readParts? parts {} text = if short then some fields else none)
    (enough : (fields.month < 100 ∧ fields.day < 100) ∧
      fields.hour < 100 ∧ fields.minute < 100 ∧ fields.second < 100 → short) :
    read? parts text = fields.timestamp? := by
  rw [read?, reads]
  split
  · rfl
  · next long =>
    cases named : fields.timestamp? with
    | none => rfl
    | some t => exact absurd (enough (short_of_timestamp? named)) long

end Named

section Reading

variable {year month day hour minute second nano n : Nat} {run m d h i s f rest : List Char}
  {part : Part} {parts : List Part} {fields : Fields} {c e : Char}

/-- A written number in front of a mark. -/
theorem readParts?_written_mark (wide : part.width = 2) (written : Written n run)
    (solid : c.isDigit = false) :
    readParts? (part :: .mark c :: parts) fields (run ++ c :: rest) =
      if n < 100 then readParts? parts (part.put n fields) rest else none := by
  rw [readParts?_run_mark (by omega) written.isRun solid solid, written.value_eq, wide]
  simp [written.length_le]

/-- A written number at the end. -/
theorem readParts?_written_end (wide : part.width = 2) (written : Written n run) :
    readParts? [part] fields run = if n < 100 then some (part.put n fields) else none := by
  rw [readParts?_run_end (by omega) written.isRun, written.value_eq, wide]
  simp [written.length_le]

/-- A written number in front of a gap and an hour. -/
theorem readParts?_written_gap (wide : part.width = 2) (written : Written n run)
    (hourRun : Written hour h) :
    readParts? (part :: .gap :: .hour :: .mark ':' :: parts) fields (run ++ ' ' :: (h ++ rest)) =
      if n < 100 then readParts? (.hour :: .mark ':' :: parts) (part.put n fields) (h ++ rest)
      else none := by
  rw [readParts?_run_gap (by omega) (by decide) written.isRun hourRun.isRun (by decide)
    (by decide), written.value_eq, wide]
  simp [written.length_le]

/-- A year has four digits. -/
theorem length_year (fits : year < 10000) : (padded 4 year).length = 4 :=
  Timestamp.length_padded (by decide) fits

/-- A year in front of a mark. -/
theorem readParts?_year_mark (fits : year < 10000) (solid : c.isDigit = false) :
    readParts? (.year :: .mark c :: parts) fields (padded 4 year ++ c :: rest) =
      readParts? parts { fields with year := year } rest := by
  rw [readParts?_run_mark (by decide) isRun_padded solid solid, Timestamp.value_padded, length_year fits]
  exact if_pos ⟨Nat.le_refl 4, rfl⟩

/-- A year in front of a gap and an hour. -/
theorem readParts?_year_gap (fits : year < 10000) (hourRun : Written hour h) :
    readParts? (.year :: .gap :: .hour :: .mark ':' :: parts) fields
        (padded 4 year ++ ' ' :: (h ++ rest)) =
      readParts? (.hour :: .mark ':' :: parts) { fields with year := year } (h ++ rest) := by
  rw [readParts?_run_gap (by decide) (by decide) isRun_padded hourRun.isRun (by decide)
    (by decide), Timestamp.value_padded, length_year fits]
  exact if_pos (Nat.le_refl 4)

/-- A year at the end. -/
theorem readParts?_year_end (fits : year < 10000) :
    readParts? [.year] fields (padded 4 year) = some { fields with year := year } := by
  rw [readParts?_run_end (by decide) isRun_padded, Timestamp.value_padded, length_year fits]
  exact if_pos (Nat.le_refl 4)

/-- A year of four digits is too long for a number of two in front of a mark. -/
theorem readParts?_mark_of_year (fits : year < 10000) (wide : part.width = 2)
    (solid : c.isDigit = false) :
    readParts? (part :: .mark c :: parts) fields (padded 4 year ++ c :: rest) = none := by
  rw [readParts?_run_mark (by omega) isRun_padded solid solid, length_year fits,
    wide]
  exact if_neg (by omega)

/-- It is too long in front of a gap and an hour. -/
theorem readParts?_gap_of_year (fits : year < 10000) (wide : part.width = 2)
    (hourRun : Written hour h) :
    readParts? (part :: .gap :: .hour :: .mark ':' :: parts) fields
      (padded 4 year ++ ' ' :: (h ++ rest)) = none := by
  rw [readParts?_run_gap (by omega) (by decide) isRun_padded hourRun.isRun (by decide)
    (by decide), length_year fits, wide]
  exact if_neg (by omega)

/-- It is too long at the end. -/
theorem readParts?_end_of_year (fits : year < 10000) (wide : part.width = 2) :
    readParts? [part] fields (padded 4 year) = none := by
  rw [readParts?_run_end (by omega) isRun_padded, length_year fits, wide]
  exact if_neg (by omega)

/-- A month and a day stand for a year and a month too, but then no day fits that is refused. -/
theorem readParts?_slashes (monthRun : Written month m) (dayRun : Written day d)
    (refused : ∀ fields, readParts? parts fields rest = none) :
    readParts? (.year :: .mark '/' :: .month :: .mark '/' :: parts) fields
      (m ++ '/' :: (d ++ '/' :: rest)) = none := by
  rw [readParts?_run_mark (by decide) monthRun.isRun (by decide) (by decide),
    readParts?_written_mark rfl dayRun (by decide), refused, ite_self, ite_self]

/-- Up to nine digits are read as the nanoseconds that zeros behind them make. -/
theorem nanoseconds_eq {digits : List Char} (fits : digits.length ≤ 9) :
    nanoseconds digits =
      Nat.ofDigitChars 10 (digits ++ List.replicate (9 - digits.length) '0') 0 := by
  rw [nanoseconds, List.take_of_length_le fits, ← Numeral.value_eq, Numeral.value_append_zeros]

/-- A fraction is read as its nanoseconds when neither a digit nor a point follows. -/
theorem fraction?_append (fraction : Fraction nano f)
    (ends : ∀ c ∈ rest.head?, c.isDigit = false ∧ c ≠ '.') :
    fraction? (f ++ rest) = some (nano, rest) := by
  cases fraction with
  | none =>
    rw [List.nil_append]
    unfold fraction?
    split
    · next digits => exact absurd rfl (ends '.' rfl).2
    · rfl
  | @digits digits filled numeric fits =>
    have stops : ∀ c ∈ rest.head?, c.isDigit = false := fun c first => (ends c first).1
    rw [List.cons_append, fraction?, takeWhile_append_stop numeric stops,
      dropWhile_append_stop numeric stops, nanoseconds_eq fits]
    exact if_neg (by simpa using filled)

/-- A second in front of a fraction at the end. -/
theorem readParts?_second_fraction (secondRun : Written second s) (fraction : Fraction nano f) :
    readParts? [.second, .fraction] fields (s ++ f) =
      if second < 100 then some { fields with second, nano } else none := by
  have ends : Ends f := by
    cases fraction with
    | none => exact fun _ first => nomatch first
    | digits => exact ends_cons (by decide) _
  rw [readParts?, Part.read?_run (by decide) secondRun.isRun ends]
  simp only [bind, Option.bind_some, Part.width]
  by_cases fits : s.length ≤ 2
  · have whole := @fraction?_append nano f [] fraction (fun _ first => nomatch first)
    rw [List.append_nil] at whole
    rw [List.take_of_length_le fits, List.drop_eq_nil_of_le fits, List.nil_append,
      if_pos (secondRun.length_le.mp fits), secondRun.value_eq]
    simp [readParts?, Part.read?, whole, Part.put]
  · -- The fraction is empty in front of the digits that are left, and they are left over.
    obtain ⟨e, others, digit, left⟩ := exists_drop_eq_cons secondRun.isRun (Nat.lt_of_not_le fits)
    have empty : fraction? (s.drop 2 ++ f) = some (0, s.drop 2 ++ f) := by
      rw [left, List.cons_append]
      unfold fraction?
      split
      · next tail point =>
        rw [(List.cons.inj point).1] at digit
        contradiction
      · rfl
    rw [if_neg (fun short => fits (secondRun.length_le.mpr short)), readParts?, Part.read?, empty,
      left]
    rfl

/-- The time up to the minute. -/
theorem readParts?_clock (hourRun : Written hour h) (minuteRun : Written minute i) :
    readParts? clock fields (h ++ ':' :: i) =
      if hour < 100 ∧ minute < 100 then some { fields with hour, minute } else none := by
  rw [clock, readParts?_written_mark rfl hourRun (by decide),
    readParts?_written_end rfl minuteRun, ite_and]
  rfl

/-- The time up to the second. -/
theorem readParts?_clockWithSecond (hourRun : Written hour h) (minuteRun : Written minute i)
    (secondRun : Written second s) :
    readParts? clockWithSecond fields (h ++ ':' :: (i ++ ':' :: s)) =
      if hour < 100 ∧ minute < 100 ∧ second < 100 then some { fields with hour, minute, second }
      else none := by
  change readParts? [.hour, .mark ':', .minute, .mark ':', .second] fields _ = _
  rw [readParts?_written_mark rfl hourRun (by decide),
    readParts?_written_mark rfl minuteRun (by decide), readParts?_written_end rfl secondRun,
    ite_and, ite_and]
  rfl

/-- The time up to a fraction. -/
theorem readParts?_clockWithFraction (hourRun : Written hour h) (minuteRun : Written minute i)
    (secondRun : Written second s) (fraction : Fraction nano f) :
    readParts? (clockWithSecond ++ [.fraction]) fields (h ++ ':' :: (i ++ ':' :: (s ++ f))) =
      if hour < 100 ∧ minute < 100 ∧ second < 100 then
        some { fields with hour, minute, second, nano }
      else none := by
  change readParts? [.hour, .mark ':', .minute, .mark ':', .second, .fraction] fields _ = _
  rw [readParts?_written_mark rfl hourRun (by decide),
    readParts?_written_mark rfl minuteRun (by decide),
    readParts?_second_fraction secondRun fraction, ite_and, ite_and]
  rfl

/-- The date with the month first, in front of a blank and a time. -/
theorem readParts?_monthFirst_gap (fits : year < 10000) (monthRun : Written month m)
    (dayRun : Written day d) (hourRun : Written hour h) :
    readParts? (monthFirst ++ .gap :: .hour :: .mark ':' :: parts) {}
        (m ++ '/' :: (d ++ '/' :: (padded 4 year ++ ' ' :: (h ++ rest)))) =
      if month < 100 ∧ day < 100 then
        readParts? (.hour :: .mark ':' :: parts) { year, month, day } (h ++ rest)
      else none := by
  change readParts? (.month :: .mark '/' :: .day :: .mark '/' :: .year :: .gap :: .hour ::
    .mark ':' :: parts) {} _ = _
  rw [readParts?_written_mark rfl monthRun (by decide),
    readParts?_written_mark rfl dayRun (by decide), readParts?_year_gap fits hourRun, ite_and]
  rfl

/-- The date with the year first, in front of a blank and a time. -/
theorem readParts?_yearFirst_gap (fits : year < 10000) (solid : c.isDigit = false)
    (monthRun : Written month m) (dayRun : Written day d) (hourRun : Written hour h) :
    readParts? (yearFirst c ++ .gap :: .hour :: .mark ':' :: parts) {}
        (padded 4 year ++ c :: (m ++ c :: (d ++ ' ' :: (h ++ rest)))) =
      if month < 100 ∧ day < 100 then
        readParts? (.hour :: .mark ':' :: parts) { year, month, day } (h ++ rest)
      else none := by
  change readParts? (.year :: .mark c :: .month :: .mark c :: .day :: .gap :: .hour ::
    .mark ':' :: parts) {} _ = _
  rw [readParts?_year_mark fits solid, readParts?_written_mark rfl monthRun solid,
    readParts?_written_gap rfl dayRun hourRun, ite_and]
  rfl

/-- The date with the year first, in front of a mark. -/
theorem readParts?_yearFirst_mark (fits : year < 10000) (solid : c.isDigit = false)
    (letter : e.isDigit = false) (monthRun : Written month m) (dayRun : Written day d) :
    readParts? (yearFirst c ++ .mark e :: parts) {}
        (padded 4 year ++ c :: (m ++ c :: (d ++ e :: rest))) =
      if month < 100 ∧ day < 100 then readParts? parts { year, month, day } rest
      else none := by
  change readParts? (.year :: .mark c :: .month :: .mark c :: .day :: .mark e :: parts) {} _ = _
  rw [readParts?_year_mark fits solid, readParts?_written_mark rfl monthRun solid,
    readParts?_written_mark rfl dayRun letter, ite_and]
  rfl

/-- The date with the month first, alone. -/
theorem readParts?_monthFirst (fits : year < 10000) (monthRun : Written month m)
    (dayRun : Written day d) :
    readParts? monthFirst {} (m ++ '/' :: (d ++ '/' :: padded 4 year)) =
      if month < 100 ∧ day < 100 then some { year, month, day } else none := by
  rw [monthFirst, readParts?_written_mark rfl monthRun (by decide),
    readParts?_written_mark rfl dayRun (by decide), readParts?_year_end fits, ite_and]
  rfl

/-- The date with the year first, alone. -/
theorem readParts?_yearFirst (fits : year < 10000) (solid : c.isDigit = false)
    (monthRun : Written month m) (dayRun : Written day d) :
    readParts? (yearFirst c) {} (padded 4 year ++ c :: (m ++ c :: d)) =
      if month < 100 ∧ day < 100 then some { year, month, day } else none := by
  rw [yearFirst, readParts?_year_mark fits solid, readParts?_written_mark rfl monthRun solid,
    readParts?_written_end rfl dayRun, ite_and]
  rfl

end Reading

end SalarySurvey.Layout
