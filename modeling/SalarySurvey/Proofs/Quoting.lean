import SalarySurvey.Csv.Writer
import SalarySurvey.Proofs.Loading
import SalarySurvey.Proofs.Utf8

/-!
# Quoted files

A file with every field in quotes is read back field by field: in a quoted part a lone quote never
stands among the bytes of the field, so commas, line ends and byte order marks belong to it, and
the closing quote is the one in front of a comma or a line end. So a file written from texts loads
as the survey of these texts, whatever characters they have.
-/
namespace SalarySurvey

namespace Csv

section Scan

variable (place : Place) (draft : Draft) (rest : List UInt8)

/-- Doubled quotes and all other bytes of a quoted part are read back. -/
theorem scan_doubleQuotes (field : Field) : ∃ next,
    scan .quoted place draft (doubleQuotes field ++ rest) =
      scan .quoted next { draft with bytes := field.reverse ++ draft.bytes } rest := by
  induction field generalizing place draft with
  | nil => exact ⟨place, rfl⟩
  | cons byte field ih =>
    by_cases special : byte = quote
    · subst special
      have doubled : doubleQuotes (quote :: field) = quote :: quote :: doubleQuotes field := by
        simp [doubleQuotes]
      -- The first quote could close the field, the second one shows that it does not.
      have first : move .quoted quote = .drop .quoteSeen := by decide
      have second : move .quoteSeen quote = .keep .quoted := by decide
      obtain ⟨next, read⟩ := ih ((place.after quote).after quote)
        { draft with bytes := quote :: draft.bytes }
      refine ⟨next, ?_⟩
      simp [doubled, scan, first, second, read]
    · have single : doubleQuotes (byte :: field) = byte :: doubleQuotes field := by
        simp [doubleQuotes, special]
      have kept : move .quoted byte = .keep .quoted := by simp [move, special]
      obtain ⟨next, read⟩ := ih (place.after byte) { draft with bytes := byte :: draft.bytes }
      refine ⟨next, ?_⟩
      simp [single, scan, kept, read]

/-- A field in quotes is read up to its closing quote, at the front of a record and behind a
comma. -/
theorem scan_writeField {stage : Stage} (front : stage = .between ∨ stage = .fieldStart)
    (field : Field) : ∃ next,
    scan stage place draft (writeField field ++ rest) =
      scan .quoteSeen next { draft with bytes := field.reverse ++ draft.bytes } rest := by
  have opens : move stage quote = .drop .quoted := by
    rcases front with rfl | rfl <;> decide
  have closes : move .quoted quote = .drop .quoteSeen := by decide
  obtain ⟨next, read⟩ := scan_doubleQuotes (place.after quote) draft (quote :: rest) field
  refine ⟨next.after quote, ?_⟩
  simp [writeField, scan, opens, read, closes]

/-- A line end closes a record behind a quoted field. -/
theorem move_quoteSeen_of_isLineEnd {byte : UInt8} (ends : isLineEnd byte = true) :
    move .quoteSeen byte = .endRecord := by
  have which : byte = lineFeed ∨ byte = carriageReturn := by simpa [isLineEnd] using ends
  rcases which with rfl | rfl <;> decide

/-- Quoted fields and a line end are the rest of a record. -/
theorem scan_writeFields {stage : Stage} (front : stage = .between ∨ stage = .fieldStart)
    (start : Place) (done : List Field) {fields : List Field} (filled : fields ≠ [])
    (lineEnd : UInt8) (ends : isLineEnd lineEnd = true) : ∃ next,
    scan stage place ⟨start, done, []⟩ (writeFields fields ++ lineEnd :: rest) =
      ⟨done.reverse ++ fields, start⟩ :: scan .between next ⟨next, [], []⟩ rest := by
  induction fields generalizing stage place done with
  | nil => contradiction
  | cons field others ih =>
    cases others with
    | nil =>
      obtain ⟨next, read⟩ := scan_writeField place ⟨start, done, []⟩ (lineEnd :: rest) front field
      refine ⟨next.after lineEnd, ?_⟩
      rw [writeFields, read]
      simp [scan, move_quoteSeen_of_isLineEnd ends, Draft.record, Draft.endField]
    | cons second others =>
      obtain ⟨next, read⟩ := scan_writeField place ⟨start, done, []⟩
        (comma :: (writeFields (second :: others) ++ lineEnd :: rest)) front field
      have parts : move .quoteSeen comma = .endField := by decide
      obtain ⟨last, later⟩ := ih (next.after comma) (.inr rfl) (field :: done) (by simp)
      refine ⟨last, ?_⟩
      have shape : writeFields (field :: second :: others) =
          writeField field ++ comma :: writeFields (second :: others) := rfl
      rw [shape, List.append_assoc, List.cons_append, read]
      simp [scan, parts, Draft.endField, later]

/-- Every line end closes a record and nothing more. -/
theorem scan_record (start : Place) (lineEnd : LineEnd) {fields : List Field}
    (filled : fields ≠ []) : ∃ next other,
    scan .between place ⟨start, [], []⟩ (writeFields fields ++ (lineEnd.bytes ++ rest)) =
      ⟨fields, start⟩ :: scan .between next ⟨other, [], []⟩ rest := by
  cases lineEnd with
  | lineFeed =>
    obtain ⟨next, read⟩ := scan_writeFields place rest (.inl rfl) start [] filled
      lineFeed (by decide)
    exact ⟨next, next, read⟩
  | carriageReturnLineFeed =>
    obtain ⟨next, read⟩ := scan_writeFields place (lineFeed :: rest) (.inl rfl) start [] filled
      carriageReturn (by decide)
    -- The line feed stands between records and is skipped.
    have skips : move .between lineFeed = .drop .between := by decide
    refine ⟨next.after lineFeed, next, ?_⟩
    simp only [LineEnd.bytes, List.cons_append, List.nil_append, read, scan, skips,
      List.reverse_nil]

end Scan

/-- The records of a written file have the fields that were written. -/
theorem fields_scan_write (place start : Place) (lineEnd : LineEnd) {records : List (List Field)}
    (filled : ∀ fields ∈ records, fields ≠ []) :
    (scan .between place ⟨start, [], []⟩ (write lineEnd records)).map Record.fields = records := by
  induction records generalizing place start with
  | nil => rfl
  | cons fields records ih =>
    rw [List.forall_mem_cons] at filled
    obtain ⟨next, other, read⟩ := scan_record place (write lineEnd records) start lineEnd filled.1
    have shape : write lineEnd (fields :: records) =
        writeFields fields ++ (lineEnd.bytes ++ write lineEnd records) := by
      simp [write]
    rw [shape, read, List.map_cons, ih next other filled.2]

/-- Written fields start with a quote. -/
theorem writeFields_eq_cons {fields : List Field} (filled : fields ≠ []) :
    ∃ rest, writeFields fields = quote :: rest := by
  match fields with
  | [] => contradiction
  | [field] => exact ⟨_, rfl⟩
  | field :: second :: others => exact ⟨_, rfl⟩

/-- A written file starts with a quote and not with a byte order mark, so nothing of it is dropped
and it is read back. -/
theorem fields_records_write (lineEnd : LineEnd) {records : List (List Field)}
    (filled : ∀ fields ∈ records, fields ≠ []) :
    (Csv.records (write lineEnd records)).map Record.fields = records := by
  have whole : Csv.records (write lineEnd records) =
      scan .between {} ⟨{}, [], []⟩ (write lineEnd records) := by
    cases records with
    | nil => rfl
    | cons fields records =>
      obtain ⟨rest, starts⟩ := writeFields_eq_cons (filled fields List.mem_cons_self)
      simp only [write, List.flatMap_cons, starts, List.cons_append]
      rfl
  rw [whole, fields_scan_write {} {} lineEnd filled]

end Csv

namespace Survey

/-- The fields of a record of texts. -/
def encodeRow (texts : PerColumn String) : List Csv.Field :=
  texts.toList.map fun text => Text.Utf8.encode text.toList

/-- A file of texts with every field in quotes, the titles in its first record. -/
def encodeFile (lineEnd : Csv.LineEnd) (titles : PerColumn String)
    (texts : List (PerColumn String)) : List UInt8 :=
  Csv.write lineEnd ((titles :: texts).map encodeRow)

theorem encodeRow_ne_nil (texts : PerColumn String) : encodeRow texts ≠ [] := by
  intro empty
  have length := congrArg List.length empty
  rw [encodeRow, List.length_map, Vector.length_toList] at length
  contradiction

/-- A record with the fields of some texts encodes them. -/
theorem encodes_of_fields {record : Csv.Record} {texts : PerColumn String}
    (fields : record.fields = encodeRow texts) : Encodes record texts := by
  rw [Encodes, fields, encodeRow, List.map_map]
  apply List.map_congr_left
  intro text _
  exact Text.Utf8.decode_encode text.toList

/-- A file of texts whose first columns are missing or name timestamps loads: it gives one row for
each row of texts, in order, with the trimmed titles as headers, and the cell of each text is the
one it has in a column of the kind that all texts of the column allow, and what the texts of the
column say it is. So no text is lost, split or moved, whatever commas, quotes, line ends or byte order
marks it has. -/
theorem ofBytes_encodeFile (lineEnd : Csv.LineEnd) (titles : PerColumn String)
    (texts : List (PerColumn String))
    (dated : ∀ row ∈ texts, Cell.isMissingMarker (row.at .timestamp) = true ∨
      ∃ t, Timestamp.read? (row.at .timestamp) = some t) :
    ∃ survey, ofBytes (encodeFile lineEnd titles texts) = .ok survey ∧
      (∀ column, survey.headers.at column = Text.trim (titles.at column)) ∧
      List.Forall₂ (fun source row => ∀ column,
        row.at column = (if column = .timestamp then Kind.timestamps
          else Kind.ofTexts (texts.map (·.at column))).cell (source.at column) ∧
        Reads column (texts.map (·.at column)) (source.at column) (row.at column))
        texts survey.rows := by
  have filled : ∀ fields ∈ (titles :: texts).map encodeRow, fields ≠ [] := by
    intro fields listed
    obtain ⟨row, -, rfl⟩ := List.mem_map.mp listed
    exact encodeRow_ne_nil row
  have written := Csv.fields_records_write lineEnd filled
  obtain ⟨header, data, records, first, others⟩ := List.map_eq_cons_iff.mp written
  have encodes : List.Forall₂ Encodes data texts := by
    have same : List.Forall₂ Eq (data.map Csv.Record.fields) (texts.map encodeRow) := by
      rw [others]
      exact List.forall₂_refl _
    rw [List.forall₂_map_left_iff, List.forall₂_map_right_iff] at same
    exact same.imp fun record row fields => encodes_of_fields fields
  have stamped : ∀ row ∈ texts, hasTimestamp (row.at .timestamp) = true := by
    intro row listed
    rw [hasTimestamp, Bool.or_eq_true, Option.isSome_iff_exists]
    exact dated row listed
  refine ⟨⟨titles.map Text.trim, texts.map (rowOf (kinds texts))⟩,
    ofBytes_eq_ok.mpr ⟨header, data, titles, texts, records, encodes_of_fields first, encodes,
      stamped, rfl⟩, ?_, ?_⟩
  · intro column
    simp [PerColumn.at]
  · rw [List.forall₂_map_right_iff, List.forall₂_same]
    intro row listed column
    refine ⟨?_, reads_rowOf listed (stamped row listed) column⟩
    rw [rowOf_at, kinds_at]

/-- A file whose titles start with a byte order mark and whose texts have quotes, commas and line
ends, with a date in the first row and a missing one in the second. -/
theorem ofBytes_encodeFile_specials :
    let titles : PerColumn String := Vector.replicate 27 "\uFEFF\"a\", b\r\n"
    let first : PerColumn String := (Vector.replicate 27 "\n,\"\"\r\n").set 0 "2016-03-21"
    let second : PerColumn String := Vector.replicate 27 ""
    ∃ survey, ofBytes (encodeFile .carriageReturnLineFeed titles [first, second]) = .ok survey ∧
      (∀ column, survey.headers.at column = Text.trim (titles.at column)) ∧
      List.Forall₂ (fun source row => ∀ column,
        row.at column = (if column = .timestamp then Kind.timestamps
          else Kind.ofTexts ([first, second].map (·.at column))).cell (source.at column) ∧
        Reads column ([first, second].map (·.at column)) (source.at column) (row.at column))
        [first, second] survey.rows := by
  intro titles first second
  apply ofBytes_encodeFile
  intro row listed
  simp only [List.mem_cons, List.not_mem_nil, or_false] at listed
  rcases listed with rfl | rfl
  · right
    have named : (Timestamp.read? (first.at .timestamp)).isSome = true := by decide +kernel
    exact Option.isSome_iff_exists.mp named
  · left
    decide +kernel

end Survey

end SalarySurvey
