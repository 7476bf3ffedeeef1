import SalarySurvey.Survey.Load
import Mathlib.Data.List.Forall2

/-!
# What a loaded survey holds

Loading reads the texts of all records before it types a column, so it splits into four stages
that succeed or fail on their own. Each stage is characterised by when it succeeds and with what
result; together they say that a file loads as a survey exactly when its records are the UTF-8
forms of texts, one for each column, and every first cell is missing or names a timestamp.

The kind of a column and the cells of that kind are found by separate tests on the same texts.
`Survey.Reads` says what the two agree on, and `Kind.Fits` is the part of it that later orders
rely on: the cells of one column that are not missing are of one kind.
-/
namespace SalarySurvey

/-- Two steps succeed exactly when the first does and the second does on its result. -/
theorem bind_eq_ok {ε α β : Type} {first : Except ε α} {next : α → Except ε β} {result : β} :
    (first >>= next) = .ok result ↔ ∃ value, first = .ok value ∧ next value = .ok result := by
  cases first with
  | error reason => simp [bind, Except.bind]
  | ok value => simp [bind, Except.bind]

/-- A changed result comes from a result. -/
theorem map_eq_ok {ε α β : Type} {change : α → β} {first : Except ε α} {result : β} :
    first.map change = .ok result ↔ ∃ value, first = .ok value ∧ change value = result := by
  cases first with
  | error reason => simp [Except.map]
  | ok value => simp [Except.map]

/-- Changing the error leaves success as it is. -/
theorem mapError_eq_ok {ε δ α : Type} {change : ε → δ} {first : Except ε α} {result : α} :
    first.mapError change = .ok result ↔ first = .ok result := by
  cases first with
  | error reason => simp [Except.mapError]
  | ok value => simp [Except.mapError]

namespace PerColumn

variable {α : Type}

/-- A list gives one value for each column exactly when it is the list of those values. -/
theorem ofList?_eq_some {values : List α} {found : PerColumn α} :
    ofList? values = some found ↔ values = found.toList := by
  unfold ofList?
  split
  · next fits =>
    rw [Option.some.injEq]
    constructor
    · rintro rfl
      rfl
    · rintro rfl
      rfl
  · next short =>
    constructor
    · intro impossible
      contradiction
    · intro same
      rw [same, Vector.length_toList] at short
      contradiction

/-- The value for a column stands at its position. -/
theorem getElem?_toList (values : PerColumn α) (column : Column) :
    values.toList[column.index.val]? = some (values.at column) := by
  have inside : column.index.val < values.toList.length := by
    rw [Vector.length_toList]
    exact column.index.isLt
  rw [List.getElem?_eq_getElem inside]
  simp [PerColumn.at]

end PerColumn

namespace Kind

/-- The texts that are not missing. -/
def present (cells : List String) : List String :=
  cells.filter fun text => !Cell.isMissingMarker text

/-- A text is present when it is listed and no missing marker. -/
theorem mem_present {cells : List String} {text : String} :
    text ∈ present cells ↔ text ∈ cells ∧ Cell.isMissingMarker text = false := by
  simp [present]

/-- Every present text, trimmed, is an integer of 64 bits. -/
def AllIntegers (cells : List String) : Prop :=
  ∀ text ∈ present cells, ∃ i, Numeral.int64? (Text.trimChars text.toList) = some i

/-- Every present text, trimmed, is a finite real number. -/
def AllReals (cells : List String) : Prop :=
  ∀ text ∈ present cells, ∃ x : Binary64,
    Numeral.real? (Text.trimChars text.toList) = some x ∧ x.isFinite = true

/-- The real number in a cell text is the one its trimmed text names, if that is finite. -/
theorem real?_eq_some {text : String} {x : Binary64} :
    real? text = some x ↔
      Numeral.real? (Text.trimChars text.toList) = some x ∧ x.isFinite = true := by
  simp [real?, Option.filter_eq_some_iff]

/-- The integer test of inference is the one of conversion. -/
theorem all_integer? (cells : List String) :
    ((present cells).all fun text => (integer? text).isSome) = true ↔ AllIntegers cells := by
  simp [AllIntegers, integer?, Option.isSome_iff_exists]

/-- The test for real numbers of inference is the one of conversion. -/
theorem all_real? (cells : List String) :
    ((present cells).all fun text => (real? text).isSome) = true ↔ AllReals cells := by
  simp [AllReals, Option.isSome_iff_exists, real?_eq_some]

/-- Present texts that are all integers make a column of integers. -/
theorem ofTexts_of_allIntegers {cells : List String} {text : String}
    (listed : text ∈ present cells) (integral : AllIntegers cells) :
    ofTexts cells = integers := by
  have some : (present cells).isEmpty = false := List.isEmpty_eq_false_iff_exists_mem.mpr ⟨_, listed⟩
  have fits := (all_integer? cells).mpr integral
  simp only [present] at some fits
  simp only [ofTexts, some, fits, Bool.false_eq_true, ↓reduceIte]

/-- Present texts that are all finite real numbers, but not all integers, make a column of real
numbers. -/
theorem ofTexts_of_allReals {cells : List String} {text : String}
    (listed : text ∈ present cells) (fractional : ¬AllIntegers cells) (real : AllReals cells) :
    ofTexts cells = reals := by
  have some : (present cells).isEmpty = false := List.isEmpty_eq_false_iff_exists_mem.mpr ⟨_, listed⟩
  have unfit := mt (all_integer? cells).mp fractional
  have fits := (all_real? cells).mpr real
  simp only [present] at some unfit fits
  simp only [ofTexts, some, unfit, fits, Bool.false_eq_true, ↓reduceIte]

/-- Present texts with one that is no finite real number make a column of texts. -/
theorem ofTexts_of_not_allReals {cells : List String} (fractional : ¬AllIntegers cells)
    (verbal : ¬AllReals cells) : ofTexts cells = texts := by
  have unfit := mt (all_integer? cells).mp fractional
  have misfit := mt (all_real? cells).mp verbal
  simp only [present] at unfit misfit
  simp only [ofTexts, unfit, misfit, Bool.false_eq_true, ↓reduceIte, ite_self]

/-- A missing marker is a missing cell in a column of any kind. -/
theorem cell_of_marker (kind : Kind) {text : String}
    (marker : Cell.isMissingMarker text = true) : kind.cell text = .missing := by
  simp [cell, marker]

/-- An integer in a column of integers. -/
theorem cell_integers {text : String} {i : Int64} (plain : Cell.isMissingMarker text = false)
    (read : Numeral.int64? (Text.trimChars text.toList) = some i) :
    integers.cell text = .integer i := by
  simp [cell, plain, integer?, read]

/-- A finite real number in a column of real numbers. -/
theorem cell_reals {text : String} {x : Binary64} (plain : Cell.isMissingMarker text = false)
    (read : Numeral.real? (Text.trimChars text.toList) = some x) (finite : x.isFinite = true) :
    reals.cell text = .real x := by
  have found := real?_eq_some.mpr ⟨read, finite⟩
  simp [cell, plain, found]

/-- A text in a column of texts. -/
theorem cell_texts {text : String} (plain : Cell.isMissingMarker text = false) :
    texts.cell text = .text text := by
  simp [cell, plain]

/-- A timestamp in the column of timestamps. -/
theorem cell_timestamps {text : String} {t : Timestamp}
    (plain : Cell.isMissingMarker text = false) (read : Timestamp.read? text = some t) :
    timestamps.cell text = .timestamp t := by
  simp [cell, plain, read]

/-- Whether a cell is missing or of a kind. -/
def Fits : Kind → Cell → Prop
  | _, .missing => True
  | integers, .integer _ => True
  | reals, .real x => x.isFinite = true
  | texts, .text _ => True
  | timestamps, .timestamp _ => True
  | _, _ => False

/-- The cell of a text in a column of a kind is of that kind, whatever the text is. -/
theorem fits_cell (kind : Kind) (text : String) : kind.Fits (kind.cell text) := by
  by_cases marker : Cell.isMissingMarker text = true
  · rw [cell_of_marker kind marker]
    simp [Fits]
  · have plain : Cell.isMissingMarker text = false := by simpa using marker
    cases kind with
    | integers =>
      cases read : integer? text with
      | none => simp [cell, plain, read, Fits]
      | some i => simp [cell, plain, read, Fits]
    | reals =>
      cases read : real? text with
      | none => simp [cell, plain, read, Fits]
      | some x => simp [cell, plain, read, Fits, (real?_eq_some.mp read).2]
    | texts => simp [cell, plain, Fits]
    | timestamps =>
      cases read : Timestamp.read? text with
      | none => simp [cell, plain, read, Fits]
      | some t => simp [cell, plain, read, Fits]

end Kind

namespace Survey

/-- The fields of a record are the UTF-8 forms of some texts, one for each column. -/
def Encodes (record : Csv.Record) (texts : PerColumn String) : Prop :=
  record.fields.map Text.Utf8.decode = texts.toList.map fun text => .ok text.toList

/-- A record of one text for each column has as many fields. -/
theorem Encodes.length {record : Csv.Record} {texts : PerColumn String}
    (encodes : Encodes record texts) : record.fields.length = Column.count := by
  have lengths := congrArg List.length encodes
  rwa [List.length_map, List.length_map, Vector.length_toList] at lengths

/-- Fields are read exactly when each of them decodes. -/
theorem fieldTexts_eq_ok {record : Nat} {start : Csv.Place} {field : Nat}
    {fields : List Csv.Field} {texts : List String} :
    fieldTexts record start field fields = .ok texts ↔
      fields.map Text.Utf8.decode = texts.map fun text => .ok text.toList := by
  induction fields generalizing field texts with
  | nil =>
    cases texts with
    | nil => simp [fieldTexts]
    | cons text texts => simp [fieldTexts]
  | cons bytes fields ih =>
    cases decoded : Text.Utf8.decode bytes with
    | error offset =>
      cases texts with
      | nil => simp [fieldTexts, decoded]
      | cons text texts => simp [fieldTexts, decoded]
    | ok characters =>
      simp only [fieldTexts, decoded, map_eq_ok, ih, List.map_cons]
      cases texts with
      | nil => simp
      | cons text texts =>
        rw [List.map_cons, List.cons.injEq, Except.ok.injEq]
        constructor
        · rintro ⟨rest, read, same⟩
          obtain ⟨rfl, rfl⟩ := List.cons.inj same
          exact ⟨by simp, read⟩
        · rintro ⟨rfl, read⟩
          exact ⟨texts, read, by simp⟩

/-- The headers of a record are its trimmed texts, if it has one for each column. -/
theorem readHeaders_eq_ok {record : Csv.Record} {headers : PerColumn String} :
    readHeaders record = .ok headers ↔
      ∃ titles, Encodes record titles ∧ headers = titles.map Text.trim := by
  unfold readHeaders
  simp only [bind_eq_ok, mapError_eq_ok, recordTexts, fieldTexts_eq_ok]
  constructor
  · rintro ⟨texts, read, shaped⟩
    split at shaped
    · next found trimmed =>
      obtain rfl := Except.ok.inj shaped
      rw [PerColumn.ofList?_eq_some] at trimmed
      have fits : texts.length = Column.count := by
        rw [← List.length_map Text.trim, trimmed, Vector.length_toList]
      refine ⟨⟨texts.toArray, by simpa using fits⟩, read, ?_⟩
      apply Vector.toList_inj.mp
      rw [← trimmed]
      simp [Vector.toList]
    · contradiction
  · rintro ⟨titles, encodes, rfl⟩
    refine ⟨titles.toList, encodes, ?_⟩
    have shaped : PerColumn.ofList? (titles.toList.map Text.trim) =
        some (titles.map Text.trim) := by
      rw [PerColumn.ofList?_eq_some, Vector.toList_map]
    rw [shaped]

/-- A data record is read exactly when it is the UTF-8 form of one text for each column. -/
theorem readRecord_eq_ok {number : Nat} {record : Csv.Record} {texts : PerColumn String} :
    readRecord number record = .ok texts ↔ Encodes record texts := by
  unfold readRecord
  dsimp only
  by_cases fits : record.fields.length = Column.count
  · rw [if_neg (not_not_intro fits)]
    simp only [bind_eq_ok, recordTexts, fieldTexts_eq_ok]
    constructor
    · rintro ⟨found, read, shaped⟩
      split at shaped
      · next row same =>
        obtain rfl := Except.ok.inj shaped
        rw [PerColumn.ofList?_eq_some] at same
        rwa [same] at read
      · contradiction
    · intro encodes
      refine ⟨texts.toList, encodes, ?_⟩
      rw [PerColumn.ofList?_eq_some.mpr rfl]
  · rw [if_pos fits]
    constructor
    · intro impossible
      contradiction
    · intro encodes
      exact absurd encodes.length fits

/-- The data records are read exactly when each of them is, in the order of the file. -/
theorem readRecords_eq_ok {number : Nat} {data : List Csv.Record}
    {texts : List (PerColumn String)} :
    readRecords number data = .ok texts ↔ List.Forall₂ Encodes data texts := by
  induction data generalizing number texts with
  | nil =>
    rw [List.forall₂_nil_left_iff]
    simp [readRecords, eq_comm]
  | cons record data ih =>
    simp only [readRecords, bind_eq_ok, readRecord_eq_ok, ih, List.forall₂_cons_left_iff,
      Except.ok.injEq]
    constructor
    · rintro ⟨row, encodes, others, rest, rfl⟩
      exact ⟨row, others, encodes, rest, rfl⟩
    · rintro ⟨row, others, encodes, rest, rfl⟩
      exact ⟨row, encodes, others, rest, rfl⟩

/-- The rows are typed exactly when every first cell is missing or names a timestamp. -/
theorem readRows_eq_ok {kinds : PerColumn Kind} {number : Nat} {texts : List (PerColumn String)}
    {rows : List Row} :
    readRows kinds number texts = .ok rows ↔
      (∀ row ∈ texts, hasTimestamp (row.at .timestamp) = true) ∧
        rows = texts.map (rowOf kinds) := by
  induction texts generalizing number rows with
  | nil =>
    rw [readRows, Except.ok.injEq]
    constructor
    · rintro rfl
      exact ⟨by simp, rfl⟩
    · rintro ⟨-, rfl⟩
      rfl
  | cons row texts ih =>
    unfold readRows
    split
    · next present =>
      simp only [map_eq_ok, ih, List.forall_mem_cons, present, true_and, List.map_cons]
      constructor
      · rintro ⟨others, ⟨allPresent, rfl⟩, rfl⟩
        exact ⟨allPresent, rfl⟩
      · rintro ⟨allPresent, rfl⟩
        exact ⟨_, ⟨allPresent, rfl⟩, rfl⟩
    · next absent =>
      simp [absent]

/-- The kind of a column: timestamps in the first one, else what its texts allow. -/
theorem kinds_at (texts : List (PerColumn String)) (column : Column) :
    PerColumn.at (kinds texts) column =
      if column = .timestamp then .timestamps else .ofTexts (texts.map (·.at column)) := by
  have first : column.index = Column.timestamp.index ↔ column = .timestamp := by
    cases column <;> decide
  simp only [kinds, PerColumn.at, Fin.getElem_fin, Vector.getElem_ofFn, Fin.eta, first]

/-- A cell is the one that its text stands for in the kind of its column. -/
theorem rowOf_at (kinds : PerColumn Kind) (texts : PerColumn String) (column : Column) :
    (rowOf kinds texts).at column = (kinds.at column).cell (texts.at column) := by
  simp [rowOf, PerColumn.at]

/-- A file loads as a survey exactly when its records are texts with a timestamp or a missing
value in front; the survey has their trimmed headers and their cells in the kinds of the
columns. -/
theorem ofBytes_eq_ok {bytes : List UInt8} {survey : Survey} :
    ofBytes bytes = .ok survey ↔
      ∃ header data titles texts, Csv.records bytes = header :: data ∧
        Encodes header titles ∧ List.Forall₂ Encodes data texts ∧
        (∀ row ∈ texts, hasTimestamp (row.at .timestamp) = true) ∧
        survey = ⟨titles.map Text.trim, texts.map (rowOf (kinds texts))⟩ := by
  unfold ofBytes
  cases records : Csv.records bytes with
  | nil => simp
  | cons header data =>
    simp only [ofRecords, bind_eq_ok, mapError_eq_ok, readHeaders_eq_ok, readRecords_eq_ok,
      readRows_eq_ok, Except.ok.injEq, List.cons.injEq]
    constructor
    · rintro ⟨headers, ⟨titles, encodes, rfl⟩, texts, all, rows, ⟨present, rfl⟩, rfl⟩
      exact ⟨header, data, titles, texts, ⟨rfl, rfl⟩, encodes, all, present, rfl⟩
    · rintro ⟨header, data, titles, texts, ⟨rfl, rfl⟩, encodes, all, present, rfl⟩
      exact ⟨_, ⟨titles, encodes, rfl⟩, texts, all, _, ⟨present, rfl⟩, rfl⟩

/-- Every column has cells of one kind. -/
def Typed (survey : Survey) : Prop :=
  ∀ column, ∃ kind : Kind, ∀ row ∈ survey.rows, kind.Fits (row.at column)

/-- A loaded survey has cells of one kind in every column. -/
theorem typed_of_ofBytes {bytes : List UInt8} {survey : Survey}
    (loaded : ofBytes bytes = .ok survey) : survey.Typed := by
  obtain ⟨_, _, titles, texts, -, -, -, -, rfl⟩ := ofBytes_eq_ok.mp loaded
  intro column
  refine ⟨(kinds texts).at column, ?_⟩
  intro row listed
  obtain ⟨source, -, rfl⟩ := List.mem_map.mp listed
  rw [rowOf_at]
  exact Kind.fits_cell _ _

/-- What a cell of a column is, by its own text and by all texts of the column. -/
structure Reads (column : Column) (cells : List String) (text : String) (cell : Cell) : Prop where
  /-- A cell is missing exactly when its text is a missing marker. -/
  missing_iff : cell = .missing ↔ Cell.isMissingMarker text = true
  /-- The first column holds the timestamps that its texts name. -/
  timestamp : column = .timestamp → cell ≠ .missing →
    ∃ t, Timestamp.read? text = some t ∧ cell = .timestamp t
  /-- Any other column holds integers exactly when all its present texts are integers. -/
  integer_iff : column ≠ .timestamp → cell ≠ .missing →
    ((∃ i, cell = .integer i) ↔ Kind.AllIntegers cells)
  /-- Else it holds real numbers exactly when all its present texts are finite ones. -/
  real_iff : column ≠ .timestamp → cell ≠ .missing →
    ((∃ x, cell = .real x) ↔ ¬Kind.AllIntegers cells ∧ Kind.AllReals cells)
  /-- Else it holds texts. -/
  text_iff : column ≠ .timestamp → cell ≠ .missing →
    ((∃ s, cell = .text s) ↔ ¬Kind.AllIntegers cells ∧ ¬Kind.AllReals cells)
  /-- An integer is what the trimmed text names. -/
  integer_eq : ∀ i, cell = .integer i → Numeral.int64? (Text.trimChars text.toList) = some i
  /-- A real number is what the trimmed text names, and finite. -/
  real_eq : ∀ x, cell = .real x →
    Numeral.real? (Text.trimChars text.toList) = some x ∧ x.isFinite = true
  /-- A text is kept unchanged. -/
  text_eq : ∀ s, cell = .text s → s = text

/-- A missing marker reads as a missing cell in any column. -/
theorem reads_missing {column : Column} {cells : List String} {text : String}
    (marker : Cell.isMissingMarker text = true) : Reads column cells text .missing := by
  constructor <;> simp [marker]

/-- A present text of the first column reads as its timestamp. -/
theorem reads_timestamp {cells : List String} {text : String} {t : Timestamp}
    (plain : Cell.isMissingMarker text = false) (read : Timestamp.read? text = some t) :
    Reads .timestamp cells text (.timestamp t) := by
  constructor <;> simp [plain, read]

/-- A present text of another column reads as what all present texts of the column are. -/
theorem reads_ofTexts {column : Column} {cells : List String} {text : String}
    (other : column ≠ .timestamp) (listed : text ∈ cells)
    (plain : Cell.isMissingMarker text = false) :
    Reads column cells text ((Kind.ofTexts cells).cell text) := by
  have present : text ∈ Kind.present cells := Kind.mem_present.mpr ⟨listed, plain⟩
  by_cases integral : Kind.AllIntegers cells
  · obtain ⟨i, read⟩ := integral text present
    rw [Kind.ofTexts_of_allIntegers present integral, Kind.cell_integers plain read]
    constructor <;> simp [plain, other, integral, read]
  · by_cases real : Kind.AllReals cells
    · obtain ⟨x, read, finite⟩ := real text present
      rw [Kind.ofTexts_of_allReals present integral real, Kind.cell_reals plain read finite]
      constructor <;> simp [plain, other, integral, real, read, finite]
    · rw [Kind.ofTexts_of_not_allReals integral real, Kind.cell_texts plain]
      constructor <;> simp [plain, other, integral, real]

/-- The cells of a row are read column by column when its first text is missing or names a
timestamp. -/
theorem reads_rowOf {texts : List (PerColumn String)} {row : PerColumn String}
    (listed : row ∈ texts) (dated : hasTimestamp (row.at .timestamp) = true) (column : Column) :
    Reads column (texts.map (·.at column)) (row.at column)
      ((rowOf (kinds texts) row).at column) := by
  rw [rowOf_at, kinds_at]
  by_cases marker : Cell.isMissingMarker (row.at column) = true
  · rw [Kind.cell_of_marker _ marker]
    exact reads_missing marker
  · have plain : Cell.isMissingMarker (row.at column) = false := by simpa using marker
    by_cases first : column = .timestamp
    · subst first
      obtain ⟨t, read⟩ : ∃ t, Timestamp.read? (row.at .timestamp) = some t := by
        simpa [hasTimestamp, plain, Option.isSome_iff_exists] using dated
      rw [if_pos rfl, Kind.cell_timestamps plain read]
      exact reads_timestamp plain read
    · rw [if_neg first]
      exact reads_ofTexts first (List.mem_map_of_mem listed) plain

/-- What a survey has of the records of its file, given the texts of their fields. -/
structure Mirrors (survey : Survey) (header : Csv.Record) (data : List Csv.Record)
    (titles : PerColumn String) (texts : List (PerColumn String)) : Prop where
  /-- The fields of the header are UTF-8 texts, one for each column. -/
  header_encodes : Encodes header titles
  /-- So are those of each data record, in the order of the file. -/
  data_encode : List.Forall₂ Encodes data texts
  /-- Every record has as many fields as there are columns. -/
  fields_length : ∀ record ∈ header :: data, record.fields.length = Column.count
  /-- The survey has the trimmed texts of the header. -/
  headers_eq : survey.headers = titles.map Text.trim
  /-- It has a header at the position of every column. -/
  headers_at : survey.headers.toList.length = Column.count ∧ ∀ column,
    survey.headers.toList[column.index.val]? = some (survey.headers.at column)
  /-- Every row has a cell at the position of every column. -/
  rows_at : ∀ row ∈ survey.rows, row.toList.length = Column.count ∧ ∀ column,
    row.toList[column.index.val]? = some (row.at column)
  /-- There is one row for each data record, in the order of the file, and each of its cells is
  what its text is in its column. -/
  rows_read : List.Forall₂ (fun source row => ∀ column,
    Reads column (texts.map (·.at column)) (source.at column) (row.at column)) texts survey.rows

/-- A survey that loads mirrors the records of its file: no row is lost or moved, and inference
and conversion agree on every cell. -/
theorem ofBytes_mirrors {bytes : List UInt8} {survey : Survey}
    (loaded : ofBytes bytes = .ok survey) :
    ∃ header data titles texts,
      Csv.records bytes = header :: data ∧ survey.Mirrors header data titles texts := by
  obtain ⟨header, data, titles, texts, records, encodes, all, dated, rfl⟩ :=
    ofBytes_eq_ok.mp loaded
  refine ⟨header, data, titles, texts, records, encodes, all, ?_, rfl, ?_, ?_, ?_⟩
  · have both : List.Forall₂ (fun record source =>
        record.fields.length = Column.count ∧ Encodes record source) data texts :=
      all.imp fun record source same => ⟨same.length, same⟩
    exact List.forall_mem_cons.mpr ⟨encodes.length, ((List.forall₂_and_left data texts).mp both).1⟩
  · exact ⟨Vector.length_toList, PerColumn.getElem?_toList _⟩
  · intro row _
    exact ⟨Vector.length_toList, row.getElem?_toList⟩
  · rw [List.forall₂_map_right_iff, List.forall₂_same]
    intro row listed
    exact reads_rowOf listed (dated row listed)

/-- A file with quotes, padded and signed numbers, a missing timestamp, and numbers that are not
finite. -/
def sampleFile : List UInt8 :=
  let lines :=
    ["Timestamp, Employment Type ,,,,,,,,,,,,,,,,,,,,,,,,,\n",
     "3/21/2016 12:58:52,\"full, \"\"time\"\"\",,,,,,,2.5,,,,,,,,120000,1e999,inf,,,,,,,,\r\n",
     ",NA,,,,,,,5,,,,,,,, +7 ,3,NaN,,,,,,,,\n"]
  lines.flatMap fun line => line.toUTF8.data.toList

/-- The file loads. -/
theorem sampleFile_loads : ∃ survey, ofBytes sampleFile = .ok survey := by
  have succeeds : (ofBytes sampleFile).isOk = true := by decide +kernel
  cases loaded : ofBytes sampleFile with
  | error reason => simp [loaded, Except.isOk, Except.toBool] at succeeds
  | ok survey => exact ⟨survey, rfl⟩

/-- The survey of the file mirrors its records. -/
theorem sampleFile_mirrors : ∃ survey header data titles texts,
    ofBytes sampleFile = .ok survey ∧ Csv.records sampleFile = header :: data ∧
      survey.Mirrors header data titles texts := by
  obtain ⟨survey, loaded⟩ := sampleFile_loads
  obtain ⟨header, data, titles, texts, records, mirrors⟩ := ofBytes_mirrors loaded
  exact ⟨survey, header, data, titles, texts, loaded, records, mirrors⟩

end Survey

end SalarySurvey
