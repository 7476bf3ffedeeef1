import SalarySurvey.Proofs.Loading
import SalarySurvey.Proofs.Utf8
import Mathlib.Data.Set.List

/-!
# How loading ends

A file can have several faults. The header is checked before the data records, its encoding before
its length; each data record is checked before the next one, its length before its encoding; and
only when all records are texts are the first cells checked, from the first row on. Each stage
fails with its first fault, so `LoadsAs` names one outcome for every file, and loading gives it.

The number of a record or a row counts records, not lines: what the reader of records skips or
keeps inside quotes has no number.
-/
namespace SalarySurvey

/-- Two steps fail when the first does, or the second does on its result. -/
theorem bind_eq_error {ε α β : Type} {first : Except ε α} {next : α → Except ε β} {reason : ε} :
    (first >>= next) = .error reason ↔
      first = .error reason ∨ ∃ value, first = .ok value ∧ next value = .error reason := by
  cases first with
  | error other => simp [bind, Except.bind]
  | ok value => simp [bind, Except.bind]

/-- Changing the result leaves failure as it is. -/
theorem map_eq_error {ε α β : Type} {change : α → β} {first : Except ε α} {reason : ε} :
    first.map change = .error reason ↔ first = .error reason := by
  cases first with
  | error other => simp [Except.map]
  | ok value => simp [Except.map]

/-- A changed error comes from an error. -/
theorem mapError_eq_error {ε δ α : Type} {change : ε → δ} {first : Except ε α} {reason : δ} :
    first.mapError change = .error reason ↔
      ∃ inner, first = .error inner ∧ change inner = reason := by
  cases first with
  | error other => simp [Except.mapError]
  | ok value => simp [Except.mapError]

section First

variable {α : Type} {good : α → Prop} {bad : Nat → α → Prop} {first : α} {rest : List α}

/-- A list has a bad element with only good ones in front of it. What is bad may depend on the
place. -/
def FirstBad (good : α → Prop) (bad : Nat → α → Prop) (list : List α) : Prop :=
  ∃ front element back, list = front ++ element :: back ∧ (∀ other ∈ front, good other) ∧
    bad front.length element

theorem not_firstBad_nil : ¬FirstBad good bad [] := by
  rintro ⟨front, element, back, parts, -⟩
  simp at parts

theorem firstBad_cons : FirstBad good bad (first :: rest) ↔
    bad 0 first ∨ good first ∧ FirstBad good (fun place => bad (place + 1)) rest := by
  constructor
  · rintro ⟨front, element, back, parts, before, here⟩
    cases front with
    | nil =>
      obtain ⟨rfl, -⟩ := List.cons.inj parts
      exact .inl here
    | cons other front =>
      obtain ⟨rfl, rfl⟩ := List.cons.inj parts
      rw [List.forall_mem_cons] at before
      exact .inr ⟨before.1, front, element, back, rfl, before.2, here⟩
  · rintro (here | ⟨fine, front, element, back, rfl, before, here⟩)
    · exact ⟨[], first, rest, rfl, by simp, here⟩
    · exact ⟨first :: front, element, back, rfl, List.forall_mem_cons.mpr ⟨fine, before⟩, here⟩

end First

/-- A list of another length does not give one value for each column. -/
theorem PerColumn.ofList?_eq_none {α : Type} {values : List α} :
    ofList? values = none ↔ values.length ≠ Column.count := by
  simp [ofList?]

namespace Survey

/-- A field is UTF-8: it is the encoding of a text. -/
def IsText (field : Csv.Field) : Prop :=
  ∃ text, field = Text.Utf8.encode text

/-- A field is no text, and an offset counts the bytes of the longest text at its front. -/
def IllAt (offset : Nat) (field : Csv.Field) : Prop :=
  ∃ text rest, field = Text.Utf8.encode text ++ rest ∧ Text.Utf8.IllFormed rest ∧
    offset = (Text.Utf8.encode text).length

/-- The first field of a record that is no text has a number and an offset. -/
def IllEncoded (record : Csv.Record) (field offset : Nat) : Prop :=
  FirstBad IsText (fun place bytes => place = field ∧ IllAt offset bytes) record.fields

/-- A record has one text for each column. -/
def Sound (record : Csv.Record) : Prop :=
  record.fields.length = Column.count ∧ ∀ field ∈ record.fields, IsText field

/-- What is wrong with the data record of a number: its length, or else its encoding. -/
inductive Faulty (number : Nat) (record : Csv.Record) : RecordError → Prop where
  /-- It has not one field for each column. -/
  | ragged (different : record.fields.length ≠ Column.count) :
    Faulty number record (.ragged number record.start record.fields.length Column.count)
  /-- It has, but one of them is no text. -/
  | notUtf8 {field offset : Nat} (fits : record.fields.length = Column.count)
    (ill : IllEncoded record field offset) :
    Faulty number record (.notUtf8 number record.start field offset)

/-- The first cell of a row is missing or names a timestamp. -/
def Dated (row : PerColumn String) : Prop :=
  Cell.isMissingMarker (row.at .timestamp) = true ∨
    ∃ t, Timestamp.read? (row.at .timestamp) = some t

/-- How loading the records of a file ends. -/
inductive LoadsAs : List Csv.Record → Except LoadError Survey → Prop where
  /-- A file without records has no columns. -/
  | empty : LoadsAs [] (.error (.columnCount 0))
  /-- A header must be UTF-8. -/
  | headerEncoding {header : Csv.Record} {data : List Csv.Record} {field offset : Nat}
    (ill : IllEncoded header field offset) :
    LoadsAs (header :: data) (.error (.unreadable (.notUtf8 0 header.start field offset)))
  /-- A header that is must have one field for each column. -/
  | headerLength {header : Csv.Record} {data : List Csv.Record}
    (texts : ∀ field ∈ header.fields, IsText field)
    (different : header.fields.length ≠ Column.count) :
    LoadsAs (header :: data) (.error (.columnCount header.fields.length))
  /-- Behind a sound header the first faulty data record counts. -/
  | record {header : Csv.Record} {data : List Csv.Record} {error : RecordError}
    (header_sound : Sound header)
    (first : FirstBad Sound (fun place record => Faulty (place + 1) record error) data) :
    LoadsAs (header :: data) (.error (.unreadable error))
  /-- When all records are texts the first row without a timestamp counts. -/
  | timestamp {header : Csv.Record} {data : List Csv.Record} {texts : List (PerColumn String)}
    {number : Nat} {text : String} (header_sound : Sound header)
    (encode : List.Forall₂ Encodes data texts)
    (first : FirstBad Dated (fun place row =>
      place + 1 = number ∧ row.at .timestamp = text ∧ ¬Dated row) texts) :
    LoadsAs (header :: data) (.error (.badTimestamp number text))
  /-- Else the file loads. -/
  | survey {header : Csv.Record} {data : List Csv.Record} {titles : PerColumn String}
    {texts : List (PerColumn String)} (header_encodes : Encodes header titles)
    (encode : List.Forall₂ Encodes data texts) (dated : ∀ row ∈ texts, Dated row) :
    LoadsAs (header :: data) (.ok ⟨titles.map Text.trim, texts.map (rowOf (kinds texts))⟩)

/-- A field decodes exactly when it is a text. -/
theorem isText_iff {field : Csv.Field} :
    IsText field ↔ ∃ text, Text.Utf8.decode field = .ok text := by
  simp only [IsText, Text.Utf8.decode_eq_ok]

/-- Fields decode to some texts exactly when each of them is a text. -/
theorem exists_texts {fields : List Csv.Field} :
    (∃ texts : List String,
      fields.map Text.Utf8.decode = texts.map fun text => .ok text.toList) ↔
      ∀ field ∈ fields, IsText field := by
  constructor
  · rintro ⟨texts, decoded⟩ field listed
    have read := List.mem_map_of_mem (f := Text.Utf8.decode) listed
    rw [decoded] at read
    obtain ⟨text, -, same⟩ := List.mem_map.mp read
    exact isText_iff.mpr ⟨_, same.symm⟩
  · intro each
    obtain ⟨texts, rfl⟩ : fields ∈ Set.range (List.map Text.Utf8.encode) := by
      rw [Set.range_list_map]
      intro field listed
      obtain ⟨text, rfl⟩ := each field listed
      exact ⟨text, rfl⟩
    exact ⟨texts.map String.ofList, by simp [Text.Utf8.decode_encode]⟩

/-- A record is sound exactly when it encodes one text for each column. -/
theorem sound_iff {record : Csv.Record} : Sound record ↔ ∃ texts, Encodes record texts := by
  rw [Sound, ← exists_texts]
  constructor
  · rintro ⟨fits, texts, decoded⟩
    have length := congrArg List.length decoded
    rw [List.length_map, List.length_map, fits] at length
    exact ⟨⟨texts.toArray, length.symm⟩, decoded⟩
  · rintro ⟨texts, encodes⟩
    exact ⟨encodes.length, texts.toList, encodes⟩

/-- Fields fail with the first one that does not decode. -/
theorem fieldTexts_eq_error {record : Nat} {start : Csv.Place} {field : Nat}
    {fields : List Csv.Field} {error : RecordError} :
    fieldTexts record start field fields = .error error ↔
      FirstBad IsText (fun place bytes => ∃ offset, IllAt offset bytes ∧
        error = .notUtf8 record start (field + place) offset) fields := by
  induction fields generalizing field with
  | nil => simp [fieldTexts, not_firstBad_nil]
  | cons bytes fields ih =>
    rw [firstBad_cons]
    cases decoded : Text.Utf8.decode bytes with
    | error offset =>
      have stray : ¬IsText bytes := by simp [isText_iff, decoded]
      have ill (other : Nat) : IllAt other bytes ↔ other = offset := by
        rw [IllAt, ← Text.Utf8.decode_eq_error, decoded, Except.error.injEq, eq_comm]
      simp [fieldTexts, decoded, stray, ill, eq_comm]
    | ok text =>
      have plain : IsText bytes := isText_iff.mpr ⟨text, decoded⟩
      have fine (offset : Nat) : ¬IllAt offset bytes := by
        rw [IllAt, ← Text.Utf8.decode_eq_error, decoded]
        simp
      simp [fieldTexts, decoded, map_eq_error, ih, plain, fine, Nat.add_assoc, Nat.add_comm 1]

/-- The texts of a record fail with the first field that is none. -/
theorem recordTexts_eq_error {number : Nat} {record : Csv.Record} {error : RecordError} :
    recordTexts number record = .error error ↔
      ∃ field offset, IllEncoded record field offset ∧
        error = .notUtf8 number record.start field offset := by
  rw [recordTexts, fieldTexts_eq_error]
  constructor
  · rintro ⟨front, bytes, back, parts, before, offset, ill, rfl⟩
    exact ⟨front.length, offset, ⟨front, bytes, back, parts, before, rfl, ill⟩, by simp⟩
  · rintro ⟨field, offset, ⟨front, bytes, back, parts, before, rfl, ill⟩, rfl⟩
    exact ⟨front, bytes, back, parts, before, offset, ill, by simp⟩

/-- The texts of a record are read exactly when all its fields are texts, and are as many. -/
theorem exists_recordTexts {number : Nat} {record : Csv.Record} {P : Nat → Prop} :
    (∃ texts, recordTexts number record = .ok texts ∧ P texts.length) ↔
      (∀ field ∈ record.fields, IsText field) ∧ P record.fields.length := by
  simp only [recordTexts, fieldTexts_eq_ok, ← exists_texts, ← exists_and_right]
  apply exists_congr
  intro texts
  apply and_congr_right
  intro decoded
  have length := congrArg List.length decoded
  rw [List.length_map, List.length_map] at length
  rw [length]

/-- A header fails by its encoding, or else by its length. -/
theorem readHeaders_eq_error {record : Csv.Record} {error : LoadError} :
    readHeaders record = .error error ↔
      (∃ field offset, IllEncoded record field offset ∧
        error = .unreadable (.notUtf8 0 record.start field offset)) ∨
      (∀ field ∈ record.fields, IsText field) ∧ record.fields.length ≠ Column.count ∧
        error = .columnCount record.fields.length := by
  rw [← @exists_recordTexts 0 record fun length =>
    length ≠ Column.count ∧ error = .columnCount length, readHeaders, bind_eq_error]
  apply or_congr
  · simp only [mapError_eq_error, recordTexts_eq_error]
    constructor
    · rintro ⟨inner, ⟨field, offset, ill, rfl⟩, rfl⟩
      exact ⟨field, offset, ill, rfl⟩
    · rintro ⟨field, offset, ill, rfl⟩
      exact ⟨_, ⟨field, offset, ill, rfl⟩, rfl⟩
  · apply exists_congr
    intro texts
    rw [mapError_eq_ok]
    apply and_congr_right
    intro read
    cases shaped : PerColumn.ofList? (texts.map Text.trim) with
    | none =>
      have short : texts.length ≠ Column.count := by
        simpa using PerColumn.ofList?_eq_none.mp shaped
      simp [short, eq_comm]
    | some headers =>
      have fits := congrArg List.length (PerColumn.ofList?_eq_some.mp shaped)
      rw [List.length_map, Vector.length_toList] at fits
      simp [fits]

/-- A data record fails by its fault. -/
theorem readRecord_eq_error {number : Nat} {record : Csv.Record} {error : RecordError} :
    readRecord number record = .error error ↔ Faulty number record error := by
  unfold readRecord
  dsimp only
  by_cases fits : record.fields.length = Column.count
  · rw [if_neg (not_not_intro fits), bind_eq_error, recordTexts_eq_error]
    constructor
    · rintro (⟨field, offset, ill, rfl⟩ | ⟨texts, read, shaped⟩)
      · exact .notUtf8 fits ill
      · have length := congrArg List.length (fieldTexts_eq_ok.mp read)
        rw [List.length_map, List.length_map, fits] at length
        split at shaped
        · contradiction
        · next short => exact absurd length.symm (PerColumn.ofList?_eq_none.mp short)
    · rintro (different | ⟨-, ill⟩)
      · contradiction
      · exact .inl ⟨_, _, ill, rfl⟩
  · rw [if_pos fits, Except.error.injEq]
    constructor
    · rintro rfl
      exact .ragged fits
    · rintro (_ | ⟨whole, -⟩)
      · rfl
      · contradiction

/-- The data records fail with the fault of the first one that is not sound. -/
theorem readRecords_eq_error {number : Nat} {data : List Csv.Record} {error : RecordError} :
    readRecords number data = .error error ↔
      FirstBad Sound (fun place record => Faulty (place + number) record error) data := by
  induction data generalizing number with
  | nil => simp [readRecords, not_firstBad_nil]
  | cons record data ih =>
    simp only [readRecords, bind_eq_error, readRecord_eq_error, readRecord_eq_ok, ih, firstBad_cons,
      reduceCtorEq, and_false, exists_false, or_false, sound_iff, exists_and_right, Nat.zero_add,
      Nat.add_assoc, Nat.add_comm 1]

/-- The first cell of a row is tested for a missing value or a timestamp. -/
theorem hasTimestamp_iff {row : PerColumn String} :
    hasTimestamp (row.at .timestamp) = true ↔ Dated row := by
  rw [hasTimestamp, Bool.or_eq_true, Option.isSome_iff_exists, Dated]

/-- The rows fail with the first one without a timestamp. -/
theorem readRows_eq_error {kinds : PerColumn Kind} {number : Nat} {texts : List (PerColumn String)}
    {error : LoadError} :
    readRows kinds number texts = .error error ↔
      FirstBad Dated (fun place row => ¬Dated row ∧
        error = .badTimestamp (place + number) (row.at .timestamp)) texts := by
  induction texts generalizing number with
  | nil => simp [readRows, not_firstBad_nil]
  | cons row texts ih =>
    rw [firstBad_cons]
    unfold readRows
    split
    · next present =>
      simp [map_eq_error, ih, hasTimestamp_iff.mp present, Nat.add_assoc, Nat.add_comm 1]
    · next absent =>
      have undated := mt hasTimestamp_iff.mpr absent
      simp [undated, eq_comm]

/-- Records fail to load as the first fault of the first stage that has one says. -/
theorem ofRecords_eq_error {header : Csv.Record} {data : List Csv.Record} {error : LoadError} :
    ofRecords header data = .error error ↔ LoadsAs (header :: data) (.error error) := by
  simp only [ofRecords, bind_eq_error, mapError_eq_error, mapError_eq_ok, readHeaders_eq_error,
    readHeaders_eq_ok, readRecords_eq_error, readRecords_eq_ok, readRows_eq_error, reduceCtorEq,
    and_false, exists_false, or_false]
  constructor
  · rintro ((⟨field, offset, ill, rfl⟩ | ⟨plain, different, rfl⟩) | ⟨headers, ⟨titles, encodes, -⟩,
      ⟨inner, first, rfl⟩ | ⟨texts, encode, front, row, back, parts, before, undated, rfl⟩⟩)
    · exact .headerEncoding ill
    · exact .headerLength plain different
    · exact .record (sound_iff.mpr ⟨titles, encodes⟩) first
    · exact .timestamp (sound_iff.mpr ⟨titles, encodes⟩) encode
        ⟨front, row, back, parts, before, rfl, rfl, undated⟩
  · intro loads
    cases loads with
    | headerEncoding ill => exact .inl (.inl ⟨_, _, ill, rfl⟩)
    | headerLength plain different => exact .inl (.inr ⟨plain, different, rfl⟩)
    | record sound first =>
      obtain ⟨titles, encodes⟩ := sound_iff.mp sound
      exact .inr ⟨_, ⟨titles, encodes, rfl⟩, .inl ⟨_, first, rfl⟩⟩
    | timestamp sound encode first =>
      obtain ⟨titles, encodes⟩ := sound_iff.mp sound
      obtain ⟨front, row, back, parts, before, rfl, rfl, undated⟩ := first
      exact .inr ⟨_, ⟨titles, encodes, rfl⟩,
        .inr ⟨_, encode, front, row, back, parts, before, undated, rfl⟩⟩

/-- Records load as a survey when no stage has a fault. -/
theorem ofRecords_eq_ok {header : Csv.Record} {data : List Csv.Record} {survey : Survey} :
    ofRecords header data = .ok survey ↔ LoadsAs (header :: data) (.ok survey) := by
  simp only [ofRecords, bind_eq_ok, mapError_eq_ok, readHeaders_eq_ok, readRecords_eq_ok,
    readRows_eq_ok, hasTimestamp_iff, Except.ok.injEq]
  constructor
  · rintro ⟨headers, ⟨titles, encodes, rfl⟩, texts, all, rows, ⟨dated, rfl⟩, rfl⟩
    exact .survey encodes all dated
  · intro loads
    cases loads with
    | survey encodes encode dated =>
      exact ⟨_, ⟨_, encodes, rfl⟩, _, encode, _, ⟨dated, rfl⟩, rfl⟩

/-- Loading the bytes of any file ends in the one way that its records have: with the encoding of
the header, else with its length, else with the first data record in the order of the file that has
not one text for each column, else with the first row whose first cell is neither missing nor a
timestamp, and else with the survey. -/
theorem ofBytes_eq_iff_loadsAs {bytes : List UInt8} {outcome : Except LoadError Survey} :
    ofBytes bytes = outcome ↔ LoadsAs (Csv.records bytes) outcome := by
  unfold ofBytes
  cases Csv.records bytes with
  | nil =>
    constructor
    · rintro rfl
      exact .empty
    · rintro ⟨⟩
      rfl
  | cons header data =>
    cases outcome with
    | error error => exact ofRecords_eq_error
    | ok survey => exact ofRecords_eq_ok

/-- Blank lines and line ends inside quotes do not count as rows, and a bad timestamp is told as it
stands in the file. -/
example :
    let commas (n : Nat) := String.ofList (List.replicate n ',')
    let text := commas 26 ++ "\n\n2016-03-21,\"a\nb\r\n\"" ++ commas 25 ++
      "\r\n\n \"soon\"" ++ commas 26
    ofBytes (Text.Utf8.encode text.toList) matches .error (.badTimestamp 2 " \"soon\"") := by
  decide +kernel

end Survey

end SalarySurvey
