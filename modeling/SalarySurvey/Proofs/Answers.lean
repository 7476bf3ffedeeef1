import SalarySurvey.Proofs.Cells
import SalarySurvey.Proofs.Documents
import SalarySurvey.Proofs.Fields
import SalarySurvey.Proofs.Sorting

/-!
# What the text of an answer says

The JSON text of an answer is read back as one object for each row, whose members are the shown
columns in order. The value of a column tells the cell apart from a missing one: the empty string
stands for a missing value and for nothing else, since no text of a loaded survey is empty, every
real number is finite and no timestamp is written with nothing.
-/
namespace SalarySurvey

/-- What stands at a position of the second of two related lists has its partner there. -/
theorem getElem?_of_forall₂ {α β : Type} {R : α → β → Prop} {first : List α} {second : List β}
    (related : List.Forall₂ R first second) {position : Nat} {b : β}
    (stands : second[position]? = some b) : ∃ a, first[position]? = some a ∧ R a b := by
  induction related generalizing position with
  | nil => simp at stands
  | cons head _ ih =>
    cases position with
    | zero =>
      obtain rfl := Option.some.inj stands
      exact ⟨_, rfl, head⟩
    | succ position => exact ih stands

/-- What the value that a text has for a cell is, given the text that the cell was read from. -/
structure Cell.Rendered (cell : Cell) (source : String) (value : Json) : Prop where
  /-- The value is the empty string exactly when the cell is missing. -/
  empty_iff : value = .string "" ↔ cell = .missing
  /-- The cell is missing exactly when its text was a missing marker. -/
  missing_iff : cell = .missing ↔ isMissingMarker source = true
  /-- An integer is the number. -/
  integer : ∀ i, cell = .integer i → value = .integer i.toInt
  /-- So is a real number, with its sign and all its bits. -/
  real : ∀ x, cell = .real x → value = .real x
  /-- A text is kept. -/
  text : ∀ s, cell = .text s → value = .string s
  /-- A timestamp is rendered. -/
  timestamp : ∀ t, cell = .timestamp t → value = .string t.render

/-- A rendered timestamp is not empty. -/
theorem Timestamp.render_ne_empty (t : Timestamp) : t.render ≠ "" := by
  intro empty
  have characters := congrArg String.toList empty
  rw [render, String.toList_ofList, writeChars_eq] at characters
  simp at characters

/-- The JSON form of a cell of a loaded survey tells what the cell is. -/
theorem Cell.Held.rendered {cell : Cell} (held : cell.Held) {source : String}
    (missing_iff : cell = .missing ↔ isMissingMarker source = true) :
    cell.Rendered source cell.json := by
  refine ⟨?_, missing_iff, ?_, ?_, ?_, ?_⟩
  · cases held with
    | missing => simp [json]
    | integer i => simp [json]
    | real finite => simp [json]
    | text plain =>
      have filled := (Cell.Held.text plain).text_ne_empty
      simpa [json, String.toList_eq_nil_iff] using filled
    | timestamp named => simp [json, Timestamp.render_ne_empty]
  all_goals
    rintro value rfl
    rfl

/-- In a loaded survey the JSON form of every cell tells what the cell is, given the texts of its
file. -/
theorem Survey.rendered_of_ofBytes {bytes : List UInt8} {survey : Survey}
    (loaded : ofBytes bytes = .ok survey) :
    ∃ header data texts, Csv.records bytes = header :: data ∧ List.Forall₂ Encodes data texts ∧
      List.Forall₂ (fun source row => ∀ column,
        (row.at column).Rendered (source.at column) (row.at column).json) texts survey.rows := by
  obtain ⟨header, data, titles, texts, records, -, encodes, dated, rfl⟩ := ofBytes_eq_ok.mp loaded
  refine ⟨header, data, texts, records, encodes, ?_⟩
  rw [List.forall₂_map_right_iff, List.forall₂_same]
  intro source listed column
  have reads := reads_rowOf listed (dated source listed) column
  rw [rowOf_at] at reads ⊢
  exact (Kind.held_cell _ _).rendered reads.missing_iff

/-- Every number that a cell of a loaded survey shows is finite. -/
theorem Cell.Held.exact {cell : Cell} (held : cell.Held) : cell.json.Exact := by
  cases held with
  | missing => exact .string ""
  | integer i => exact .integer i.toInt
  | real finite => exact .real finite
  | text plain => exact .string _
  | timestamp named => exact .string _

namespace Query

/-- What the object for a row says, given the texts of the row in the file. -/
structure Answer.Tells (answer : Answer) (source : PerColumn String) (row : Row)
    (members : List (String × Json)) : Prop where
  /-- The names are those of the shown columns, in order. -/
  names : members.map Prod.fst = answer.columns.map Column.name
  /-- No name is repeated. -/
  nodup : (members.map Prod.fst).Nodup
  /-- The value for a column tells what the cell of the row in that column is. -/
  values : List.Forall₂ (fun column member =>
    (row.at column).Rendered (source.at column) member.2) answer.columns members

/-- A row of an answer stands at its position in the survey. -/
theorem getElem?_of_mem_rows {survey : Survey} {parameters : List Parameter} {found : Answer}
    (answered : answer survey parameters = .ok found) {row : PlacedRow}
    (listed : row ∈ found.rows) : survey.rows[row.2]? = some row.1 := by
  obtain ⟨plan, -, rfl⟩ := map_eq_ok.mp answered
  rw [answer_rows, List.mem_filter, sortRows, List.mem_mergeSort] at listed
  exact List.mem_zipIdx_iff_getElem?.mp listed.1

/-- Every number that an answer of a loaded survey shows is finite. -/
theorem exact_json {bytes : List UInt8} {survey : Survey}
    (loaded : Survey.ofBytes bytes = .ok survey) {parameters : List Parameter} {found : Answer}
    (answered : answer survey parameters = .ok found) : found.json.Exact := by
  apply Json.Exact.array
  intro object listed
  obtain ⟨row, shown, rfl⟩ := List.mem_map.mp listed
  apply Json.Exact.object
  intro member listed
  obtain ⟨column, -, rfl⟩ := List.mem_map.mp listed
  have stands := List.mem_of_getElem? (getElem?_of_mem_rows answered shown)
  exact (Survey.held_of_ofBytes loaded stands column).exact

/-- The text of an answer of a loaded survey is read back as the answer. -/
theorem read?_json {bytes : List UInt8} {survey : Survey}
    (loaded : Survey.ofBytes bytes = .ok survey) {parameters : List Parameter} {found : Answer}
    (answered : answer survey parameters = .ok found) :
    Json.read? found.json.render.toList = some found.json := by
  rw [Json.render, String.toList_ofList, (exact_json loaded answered).read?_write]

/-- The text of an answer of a loaded survey is the JSON of a list with one object for each row, in
the order of the rows. An object has the names of the shown columns in order, none of them twice,
and each value tells what the cell is: the empty string exactly for a missing cell, and else the
number, the text or the rendered timestamp. -/
theorem read?_json_tells {bytes : List UInt8} {survey : Survey}
    (loaded : Survey.ofBytes bytes = .ok survey) {parameters : List Parameter} {found : Answer}
    (answered : answer survey parameters = .ok found) :
    ∃ header data texts objects, Csv.records bytes = header :: data ∧
      List.Forall₂ Survey.Encodes data texts ∧
      Json.read? found.json.render.toList = some (.array (objects.map .object)) ∧
      List.Forall₂ (fun position members => ∃ source row, texts[position]? = some source ∧
        survey.rows[position]? = some row ∧ found.Tells source row members)
        found.positions objects := by
  obtain ⟨header, data, texts, records, encodes, rendered⟩ := Survey.rendered_of_ofBytes loaded
  refine ⟨header, data, texts, found.rows.map fun row =>
    found.columns.map fun column => (column.name, (row.1.at column).json), records, encodes, ?_, ?_⟩
  · rw [read?_json loaded answered, Answer.json, List.map_map]
    rfl
  · -- Positions and objects are made from the same rows, one of each for a row.
    rw [Answer.positions, List.forall₂_map_left_iff, List.forall₂_map_right_iff, List.forall₂_same]
    rintro ⟨row, position⟩ listed
    have stands := getElem?_of_mem_rows answered listed
    obtain ⟨source, stood, tells⟩ := getElem?_of_forall₂ rendered stands
    refine ⟨source, row, stood, stands, ?_, ?_, ?_⟩
    · rw [List.map_map]
      rfl
    · rw [List.map_map]
      exact nodup_columns_answer answered
    · rw [List.forall₂_map_right_iff, List.forall₂_same]
      intro column _
      exact tells column

/-- A request that names a column twice shows it once in the text of its answer. -/
theorem sampleFile_read?_json_tells :
    let parameters : List Parameter := [("fields", "salary, thoughts,salary"), ("sort", "salary")]
    ∃ survey found header data texts objects, Survey.ofBytes Survey.sampleFile = .ok survey ∧
      answer survey parameters = .ok found ∧ found.columns = [.salary, .thoughts] ∧
      Csv.records Survey.sampleFile = header :: data ∧
      List.Forall₂ Survey.Encodes data texts ∧
      Json.read? found.json.render.toList = some (.array (objects.map .object)) ∧
      List.Forall₂ (fun position members => ∃ source row, texts[position]? = some source ∧
        survey.rows[position]? = some row ∧ found.Tells source row members)
        found.positions objects := by
  intro parameters
  obtain ⟨survey, loaded⟩ := Survey.sampleFile_loads
  have planned : Plan.ofParameters parameters =
      .ok ⟨[], some [.salary], some [.salary, .thoughts]⟩ := by
    decide +kernel
  have answered : answer survey parameters =
      .ok (Plan.answer ⟨[], some [.salary], some [.salary, .thoughts]⟩ survey) := by
    rw [answer, planned]
    rfl
  obtain ⟨header, data, texts, objects, tells⟩ := read?_json_tells loaded answered
  exact ⟨survey, _, header, data, texts, objects, loaded, answered, rfl, tells⟩

end Query

end SalarySurvey
