import SalarySurvey.Proofs.DayNumbers
import SalarySurvey.Proofs.Membership
import SalarySurvey.Proofs.NumericFilters
import SalarySurvey.Proofs.Shapes

/-!
# Filters on timestamps

A filter on a timestamp compares it in time with the one that its value names. The value is typed
first, and digits alone make it a number, which compares with no timestamp; but no layout fits a
text of digits alone, however long it is, so no date is lost by that. A value that names nothing is
unequal to every timestamp and stands in no other relation to any, and a set has the timestamps that
its words name.
-/
namespace SalarySurvey

namespace Timestamp

/-- A text of digits alone names no timestamp. -/
theorem readChars?_digits {text : List Char} (numeric : ∀ c ∈ text, c.isDigit = true) :
    readChars? text = none := by
  have solid : Text.trimChars text = text := Text.trimChars_of_forall fun c listed =>
    Text.isBlank_of_isDigit (numeric c listed)
  have plain : Layout.shape text = [] := Layout.shape_digits numeric
  -- Every layout has a mark, so none is left for a text without one.
  have timed : (Layout.withTime.filter fun parts => [] ∈ Layout.shapes parts) = [] := by decide
  have dated : (Layout.dateOnly.filter fun parts => [] ∈ Layout.shapes parts) = [] := by decide
  have foreign : Layout.shape text ∉ Layout.internetShapes := by
    rw [plain]
    decide
  rw [readChars?, solid, Layout.internet?_eq_none foreign, Layout.findSome?_read?,
    Layout.findSome?_read? Layout.dateOnly, plain, timed, dated]
  rfl

/-- So a text that is a number to a query names no timestamp. -/
theorem read?_of_natural {text : String} (natural : Numeral.isNatural text.toList = true) :
    read? text = none := by
  rw [Numeral.isNatural, Bool.and_eq_true, List.all_eq_true] at natural
  exact readChars?_digits natural.2

end Timestamp

namespace Query

/-- A value compares with a timestamp as the timestamp does that it names. -/
theorem Literal.compare?_timestamp (value : String) (t : Timestamp) :
    (Literal.ofText value).compare? (.timestamp t) = (Timestamp.read? value).map t.compare := by
  by_cases natural : Numeral.isNatural value.toList = true
  · rw [ofText_of_natural natural, Timestamp.read?_of_natural natural]
    rfl
  · rw [ofText_of_mixed (by simpa using natural)]
    rfl

/-- What a filter with an operator and a value asks of a timestamp. -/
def Dated (value : String) (t : Timestamp) : Operator → Prop
  | .equal => ∃ u, Timestamp.read? value = some u ∧ t.instant = u.instant
  | .notEqual => Timestamp.read? value = none ∨
      ∃ u, Timestamp.read? value = some u ∧ t.instant ≠ u.instant
  | .above => ∃ u, Timestamp.read? value = some u ∧ u.instant < t.instant
  | .atLeast => ∃ u, Timestamp.read? value = some u ∧ u.instant ≤ t.instant
  | .below => ∃ u, Timestamp.read? value = some u ∧ t.instant < u.instant
  | .atMost => ∃ u, Timestamp.read? value = some u ∧ t.instant ≤ u.instant
  | .oneOf => ∃ word ∈ words value, Timestamp.read? word = some t
  | .noneOf => ∀ word ∈ words value, Timestamp.read? word ≠ some t

section Holding

variable {value : String} {t : Timestamp} {operator : Operator}

/-- An operator for one value decides as the two timestamps are in time, and without a second one
only inequality holds. -/
theorem holds_timestamp_iff (single : operator.takesSet = false) :
    operator.holds ((Timestamp.read? value).map t.compare) = true ↔ Dated value t operator := by
  cases named : Timestamp.read? value with
  | none => cases operator <;> first | contradiction | simp [Dated, Operator.holds, named]
  | some u =>
    obtain ⟨equal, notEqual, below, atMost, above, atLeast⟩ := holds_compare t.instant u.instant
    rw [Option.map_some, ← Timestamp.compare_instant]
    cases operator with
    | equal => simp [Dated, named, equal]
    | notEqual => simp [Dated, named, notEqual]
    | above => simp [Dated, named, above]
    | atLeast => simp [Dated, named, atLeast]
    | below => simp [Dated, named, below]
    | atMost => simp [Dated, named, atMost]
    | oneOf | noneOf => contradiction

/-- A timestamp is in the set of a value when a word names it. -/
theorem isMember_timestamp_iff :
    Condition.isMember (.timestamp t) ((words value).map Literal.ofText) = true ↔
      ∃ word ∈ words value, Timestamp.read? word = some t := by
  have equal (word : String) : (Literal.ofText word).compare? (.timestamp t) = some .eq ↔
      Timestamp.read? word = some t := by
    rw [Literal.compare?_timestamp, Option.map_eq_some_iff]
    simp only [Timestamp.compare_eq_iff, exists_eq_right']
  simp only [Condition.isMember_iff, equal]

/-- A condition holds for a timestamp when the timestamp is what its operator and value ask for. -/
theorem holdsFor_timestamp_iff {key : String} {condition : Condition}
    (accepted : Condition.ofParameter key value = .ok condition) :
    condition.holdsFor (.timestamp t) = true ↔ Dated value t condition.operator := by
  obtain ⟨column, operator, rfl⟩ := Condition.ofParameter_eq_ok accepted
  cases several : operator.takesSet with
  | true =>
    cases operator with
    | oneOf => exact isMember_timestamp_iff
    | noneOf =>
      have absent := not_congr (@isMember_timestamp_iff value t)
      simpa [Condition.holdsFor, operandOf, Operator.takesSet, Dated] using absent
    | equal | notEqual | above | atLeast | below | atMost => contradiction
  | false =>
    rw [operandOf_single several]
    change operator.holds ((Literal.ofText value).compare? (.timestamp t)) = true ↔ _
    rw [Literal.compare?_timestamp]
    exact holds_timestamp_iff several

end Holding

/-- A condition on a timestamp decides in time: a row meets it when its value names a timestamp that
the one in the row is in the relation of its operator to, or when it names none and the operator is
inequality; and a set has the timestamps that its words name. Each operator can be asked for in the
column of timestamps. A text of digits alone, which is a number to a query, names no timestamp. -/
theorem timestamp_filters :
    (∀ key value condition, Condition.ofParameter key value = .ok condition →
      ∀ (row : Row) t, row.at condition.column = .timestamp t →
        (condition.holds row = true ↔ Dated value t condition.operator)) ∧
    (∀ value, Condition.ofParameter "timestamp" value =
      .ok ⟨.timestamp, .equal, .scalar (Literal.ofText value)⟩) ∧
    (∀ name operator value, (name, operator) ∈ Operator.suffixes →
      ∃ condition, Condition.ofParameter ("timestamp" ++ ("[" ++ name ++ "]")) value = .ok condition ∧
        condition.column = .timestamp ∧ condition.operator = operator) ∧
    ∀ text, (∀ c ∈ text.toList, c.isDigit = true) → Timestamp.read? text = none := by
  refine ⟨?_, Condition.ofParameter_name .timestamp, ?_,
    fun text numeric => Timestamp.readChars?_digits numeric⟩
  · intro key value condition accepted row t dated
    rw [Condition.holds, dated]
    exact holdsFor_timestamp_iff accepted
  · intro name operator value listed
    have brackets : ("[" ++ name ++ "]").toList = '[' :: name.toList ++ [']'] := by simp
    exact ⟨_, Condition.ofParameter_suffix .timestamp listed brackets value, rfl, rfl⟩

/-- A leap second comes before the new year, which is given in the time of another zone; and a date
of digits alone is none. -/
theorem timestamp_filters_leapSecond :
    let t : Timestamp := ⟨{ year := 2016, month := 12, day := 31 },
      { hour := 23, minute := 59, second := 60, nano := 999999999 }⟩
    let row : Row := Vector.replicate Column.count (.timestamp t)
    (∃ condition, Condition.ofParameter "timestamp[lt]" "2017-01-01T01:00:00+01:00" = .ok condition ∧
      row.at condition.column = .timestamp t ∧ condition.holds row = true) ∧
    Timestamp.read? "20161231" = none := by
  intro t row
  obtain ⟨decides, -, named, digits⟩ := timestamp_filters
  obtain ⟨condition, accepted, -, operator⟩ :=
    named "lt" .below "2017-01-01T01:00:00+01:00" (by decide)
  let u : Timestamp := ⟨{ year := 2017, month := 1, day := 1 }, .midnight⟩
  have later : Timestamp.read? "2017-01-01T01:00:00+01:00" = some u := by decide +kernel
  have dated : row.at condition.column = .timestamp t := Vector.getElem_replicate _
  refine ⟨⟨condition, accepted, dated, (decides _ _ _ accepted row t dated).mpr ?_⟩,
    digits "20161231" (List.all_eq_true.mp (by decide))⟩
  rw [operator]
  exact ⟨u, later, by decide⟩

end Query

end SalarySurvey
