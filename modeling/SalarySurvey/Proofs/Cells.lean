import SalarySurvey.Proofs.Loading
import SalarySurvey.Proofs.Rendering

/-!
# Cells of a loaded survey

What loading leaves of each kind of cell: a text is no missing marker, so it is not empty, a real
number is finite, and a timestamp was read from a text, so it lies in the range of the calendar
and is read back from its rendering.
-/
namespace SalarySurvey

/-- What holds of a cell of a loaded survey. -/
inductive Cell.Held : Cell → Prop where
  /-- A value may be missing. -/
  | missing : Held .missing
  /-- Any integer of 64 bits may stand in a survey. -/
  | integer (i : Int64) : Held (.integer i)
  /-- A real number is finite. -/
  | real {x : Binary64} (finite : x.isFinite = true) : Held (.real x)
  /-- A text is no missing marker. -/
  | text {s : String} (plain : isMissingMarker s = false) : Held (.text s)
  /-- A timestamp is what some text names. -/
  | timestamp {source : String} {t : Timestamp} (named : Timestamp.read? source = some t) :
    Held (.timestamp t)

/-- Every text stands for such a cell in a column of any kind. -/
theorem Kind.held_cell (kind : Kind) (text : String) : (kind.cell text).Held := by
  by_cases marker : Cell.isMissingMarker text = true
  · rw [cell_of_marker kind marker]
    exact .missing
  · have plain : Cell.isMissingMarker text = false := by simpa using marker
    cases kind with
    | integers =>
      cases read : integer? text with
      | none => simpa [cell, plain, read] using .missing
      | some i => simpa [cell, plain, read] using .integer i
    | reals =>
      cases read : real? text with
      | none => simpa [cell, plain, read] using .missing
      | some x => simpa [cell, plain, read] using .real (real?_eq_some.mp read).2
    | texts => simpa [cell, plain] using .text plain
    | timestamps =>
      cases read : Timestamp.read? text with
      | none => simpa [cell, plain, read] using .missing
      | some t => simpa [cell, plain, read] using .timestamp read

/-- A loaded survey has such cells only. -/
theorem Survey.held_of_ofBytes {bytes : List UInt8} {survey : Survey}
    (loaded : ofBytes bytes = .ok survey) {row : Row} (listed : row ∈ survey.rows)
    (column : Column) : (row.at column).Held := by
  obtain ⟨_, _, _, texts, -, -, -, -, rfl⟩ := ofBytes_eq_ok.mp loaded
  obtain ⟨source, -, rfl⟩ := List.mem_map.mp listed
  rw [rowOf_at]
  exact Kind.held_cell _ _

/-- The empty text is a missing marker, so no cell holds it. -/
theorem Cell.Held.text_ne_empty {s : String} (held : Held (.text s)) : s.toList ≠ [] := by
  cases held with
  | text plain =>
    intro empty
    obtain rfl : s = "" := String.toList_eq_nil_iff.mp empty
    contradiction

namespace Timestamp

/-- A timestamp that some text names is read back from its rendering, without its fraction. -/
theorem read?_render_of_read? {source : String} {t : Timestamp} (named : read? source = some t) :
    read? t.render = some t.wholeSecond := by
  rw [read?, render, String.toList_ofList]
  exact readChars?_writeChars (Layout.inCalendar_of_read? named)

/-- A timestamp is as late as its whole second exactly when it has no fraction. -/
theorem compare_wholeSecond_eq (t : Timestamp) :
    t.compare t.wholeSecond = .eq ↔ t.time.nano = 0 := by
  simp [compare, wholeSecond, Date.compare, TimeOfDay.compare, Std.compare_self]

end Timestamp

end SalarySurvey
