import SalarySurvey.Proofs.Digits

/-!
# The range of the calendar

A layout names years from `-262143` to `262142` only. The internet format moves its timestamp by
an offset afterwards, out of reach of that check; but it has years of four digits, and an offset
of less than a day moves a year by one at most. So every timestamp that a text names lies in the
range of the calendar.
-/
namespace SalarySurvey

/-- No month has more than 31 days. -/
theorem daysInMonth_le (year : Int) (month : Nat) : daysInMonth year month ≤ 31 := by
  unfold daysInMonth
  split <;> try decide
  split <;> decide

namespace Date

/-- The month of a date is one of twelve. -/
theorem month_le (date : Date) : date.month ≤ 12 := by
  have existing := date.exists_day
  simp only [dayExists, Bool.and_eq_true, decide_eq_true_eq] at existing
  by_contra late
  have none_left : daysInMonth date.year date.month = 0 := by
    unfold daysInMonth
    split <;> omega
  omega

/-- The day of a date is one of 31. -/
theorem day_le (date : Date) : date.day ≤ 31 := by
  have existing := date.exists_day
  have longest := daysInMonth_le date.year date.month
  simp only [dayExists, Bool.and_eq_true, decide_eq_true_eq] at existing
  omega

/-- A date is made of its parts. -/
theorem ofParts?_self (date : Date) : ofParts? date.year date.month date.day = some date :=
  dif_pos date.exists_day

/-- A date has the year it is made with. -/
theorem year_of_ofParts? {year : Int} {month day : Nat} {date : Date}
    (found : ofParts? year month day = some date) : date.year = year := by
  unfold ofParts? at found
  split at found
  · rw [← Option.some.inj found]
  · contradiction

/-- The day after a date is in its year or in the next one. -/
theorem year_next (date : Date) : date.next.year = date.year ∨ date.next.year = date.year + 1 := by
  unfold next
  cases sameMonth : ofParts? date.year date.month (date.day + 1) with
  | some found => exact .inl (year_of_ofParts? sameMonth)
  | none =>
    cases nextMonth : ofParts? date.year (date.month + 1) 1 with
    | some found => exact .inl (year_of_ofParts? nextMonth)
    | none =>
      cases nextYear : ofParts? (date.year + 1) 1 1 with
      | some found => exact .inr (year_of_ofParts? nextYear)
      | none => exact .inl rfl

/-- The day before a date is in its year or in the one before. -/
theorem year_previous (date : Date) :
    date.previous.year = date.year ∨ date.previous.year = date.year - 1 := by
  unfold previous
  cases sameMonth : ofParts? date.year date.month (date.day - 1) with
  | some found => exact .inl (year_of_ofParts? sameMonth)
  | none =>
    cases before : lastOf date.year (date.month - 1) with
    | some found =>
      unfold lastOf at before
      split at before
      · exact .inr (year_of_ofParts? before)
      · exact .inl (year_of_ofParts? before)
    | none => exact .inl rfl

end Date

namespace Timestamp

/-- Whether the year of a timestamp lies in the range of the calendar. -/
def InCalendar (t : Timestamp) : Prop :=
  -262143 ≤ t.date.year ∧ t.date.year ≤ 262142

/-- Less than a day moves the year by one at most. -/
theorem year_backMinutes (t : Timestamp) {minutes : Int} (early : -1440 < minutes)
    (late : minutes < 1440) :
    t.date.year - 1 ≤ (t.backMinutes minutes).date.year ∧
      (t.backMinutes minutes).date.year ≤ t.date.year + 1 := by
  have hour := t.time.hour_lt
  have minute := t.time.minute_lt
  have days : (t.time.hour * 60 + t.time.minute - minutes) / 1440 = -1 ∨
      (t.time.hour * 60 + t.time.minute - minutes) / 1440 = 0 ∨
      (t.time.hour * 60 + t.time.minute - minutes) / 1440 = 1 := by
    omega
  unfold backMinutes
  dsimp only
  rcases days with before | same | after
  · rw [before]
    change t.date.year - 1 ≤ t.date.previous.year ∧ t.date.previous.year ≤ t.date.year + 1
    have moved := t.date.year_previous
    omega
  · rw [same]
    change t.date.year - 1 ≤ t.date.year ∧ t.date.year ≤ t.date.year + 1
    omega
  · rw [after]
    change t.date.year - 1 ≤ t.date.next.year ∧ t.date.next.year ≤ t.date.year + 1
    have moved := t.date.year_next
    omega

end Timestamp

namespace Layout

/-- Fields name a timestamp of their year, in the range of the calendar. -/
theorem year_of_timestamp? {fields : Fields} {t : Timestamp}
    (found : fields.timestamp? = some t) : t.date.year = fields.year ∧ t.InCalendar := by
  unfold Fields.timestamp? at found
  split at found
  · contradiction
  · next ranged =>
    simp only [bind, Option.bind_eq_some_iff] at found
    obtain ⟨date, dated, time, timed, built⟩ := found
    have year := Date.year_of_ofParts? dated
    rw [← Option.some.inj built, Timestamp.InCalendar]
    dsimp only
    omega

/-- An offset is less than a day. -/
theorem offset?_bounds {text rest : List Char} {minutes : Int}
    (found : offset? text = some (minutes, rest)) : -1440 < minutes ∧ minutes < 1440 := by
  cases text with
  | nil => contradiction
  | cons c text =>
    rw [offset?] at found
    split at found
    · simp only [Option.some.injEq, Prod.mk.injEq] at found
      omega
    · split at found
      · simp only [bind, Option.bind_eq_some_iff] at found
        obtain ⟨⟨hours, _⟩, _, _, _, ⟨minutes, _⟩, _, bounded⟩ := found
        split at bounded
        · simp only [Option.some.injEq, Prod.mk.injEq] at bounded
          omega
        · contradiction
      · contradiction

/-- The internet format names timestamps in the range of the calendar only. -/
theorem inCalendar_of_internet? {text : List Char} {t : Timestamp}
    (found : internet? text = some t) : t.InCalendar := by
  obtain ⟨⟨year, _⟩, fourDigits, found⟩ := Option.bind_eq_some_iff.mp found
  -- The other parts up to the fraction have no say in the year.
  iterate 11 obtain ⟨_, -, found⟩ := Option.bind_eq_some_iff.mp found
  obtain ⟨⟨offset, _⟩, shifted, found⟩ := Option.bind_eq_some_iff.mp found
  obtain ⟨base, named, found⟩ := Option.bind_eq_some_iff.mp found
  split at found
  · rw [← Option.some.inj found, Timestamp.InCalendar]
    have few : year < 10000 := lt_of_exactly? fourDigits
    have bounds := offset?_bounds shifted
    have near := base.year_backMinutes bounds.1 bounds.2
    have same : base.date.year = year := (year_of_timestamp? named).1
    omega
  · contradiction

/-- A text names timestamps in the range of the calendar only. -/
theorem inCalendar_of_read? {text : String} {t : Timestamp}
    (found : Timestamp.read? text = some t) : t.InCalendar := by
  have inLayout {layouts : List (List Part)} {text : List Char}
      (fits : layouts.findSome? (fun parts => Layout.read? parts text) = some t) :
      t.InCalendar := by
    obtain ⟨parts, _, read⟩ := List.exists_of_findSome?_eq_some fits
    simp only [Layout.read?, bind, Option.bind_eq_some_iff] at read
    obtain ⟨fields, _, named⟩ := read
    exact (year_of_timestamp? named).2
  rw [Timestamp.read?, Timestamp.readChars?, Option.or_eq_some_iff, Option.or_eq_some_iff] at found
  rcases found with timed | ⟨_, internet | ⟨_, dated⟩⟩
  · exact inLayout timed
  · exact inCalendar_of_internet? internet
  · exact inLayout dated

end Layout

end SalarySurvey
