import SalarySurvey.Proofs.Lookup
import SalarySurvey.Proofs.WordLists

/-!
# Filters for sets

A filter for a set has a list of words for its value, and a cell is in the set when it equals the
literal of one of them. So its rows are those that the words find one by one, in a filter for
equality each, and the filter for the complement has all the others, those without a value too. It
does not matter in which order the words stand, how they are padded or whether one stands there
twice.
-/
namespace SalarySurvey.Query

/-- A cell is in a set of words when it equals the literal of one of them. -/
theorem Condition.isMember_iff {cell : Cell} {texts : List String} :
    isMember cell (texts.map Literal.ofText) = true ↔
      ∃ word ∈ texts, (Literal.ofText word).compare? cell = some .eq := by
  simp [isMember, List.any_map]

/-- A missing value is in no set. -/
theorem Condition.isMember_missing (members : List Literal) :
    isMember .missing members = false := by
  rw [isMember, List.any_eq_false]
  intro literal _
  cases literal <;> simp [Literal.compare?]

/-- Words are in a set whatever their order and however often they stand there. -/
theorem Condition.isMember_congr {texts others : List String}
    (same : ∀ word, word ∈ texts ↔ word ∈ others) (cell : Cell) :
    isMember cell (texts.map Literal.ofText) = isMember cell (others.map Literal.ofText) := by
  rw [Bool.eq_iff_iff, isMember_iff, isMember_iff]
  simp only [same]

/-- A parameter that is understood is a condition with its value as the operand. -/
theorem Condition.ofParameter_eq_ok {key value : String} {condition : Condition}
    (accepted : ofParameter key value = .ok condition) :
    ∃ column operator, condition = ⟨column, operator, operandOf operator value⟩ := by
  unfold ofParameter at accepted
  dsimp only at accepted
  split at accepted
  · contradiction
  · exact ⟨_, _, (Except.ok.inj accepted).symm⟩

section Rows

variable {survey : Survey} {column : Column} {value : String}

/-- A request for a condition alone answers with the rows that meet it, in the order of the
survey. -/
theorem rowsFor_alone {key : String} {condition : Condition}
    (accepted : Condition.ofParameter key value = .ok condition) :
    rowsFor survey [(key, value)] =
      .ok (survey.rows.zipIdx.filter fun row => condition.holds row.1) := by
  have meets : Plan.meets ⟨[condition], none, none⟩ = fun row => condition.holds row.1 := by
    funext row
    simp [Plan.meets]
  rw [rowsFor, answer, Plan.ofParameters_condition accepted, Except.map, Except.map, answer_rows,
    Option.getD_none, sortRows_nil, meets]

/-- A request for a word finds the rows whose cell equals its literal. -/
theorem rowsFor_equal (word : String) : rowsFor survey [(column.name, word)] =
    .ok (survey.rows.zipIdx.filter fun row =>
      Operator.equal.holds ((Literal.ofText word).compare? (row.1.at column))) :=
  rowsFor_alone (Condition.ofParameter_name column word)

/-- A request for a set finds the rows whose cell is in it. -/
theorem rowsFor_oneOf : rowsFor survey [(column.name ++ "[in]", value)] =
    .ok (survey.rows.zipIdx.filter fun row =>
      Condition.isMember (row.1.at column) ((words value).map Literal.ofText)) :=
  rowsFor_alone (@Condition.ofParameter_suffix column "in" "[in]" .oneOf (by decide) (by decide)
    value)

/-- A request for a complement finds the other rows. -/
theorem rowsFor_noneOf : rowsFor survey [(column.name ++ "[notin]", value)] =
    .ok (survey.rows.zipIdx.filter fun row =>
      !Condition.isMember (row.1.at column) ((words value).map Literal.ofText)) :=
  rowsFor_alone (@Condition.ofParameter_suffix column "notin" "[notin]" .noneOf (by decide)
    (by decide) value)

end Rows

/-- What it means that a value parts the rows of a survey by a column. -/
structure Parts (survey : Survey) (column : Column) (value : String)
    (inside outside : List PlacedRow) : Prop where
  /-- The rows in the set of the value. -/
  oneOf : rowsFor survey [(column.name ++ "[in]", value)] = .ok inside
  /-- The rows that are not in it. -/
  noneOf : rowsFor survey [(column.name ++ "[notin]", value)] = .ok outside
  /-- Each word of the value can be asked for on its own. -/
  answered : ∀ word ∈ words value, ∃ same, rowsFor survey [(column.name, word)] = .ok same
  /-- The rows in the set are those that some word finds on its own. -/
  mem_inside : ∀ row, row ∈ inside ↔
    ∃ word ∈ words value, ∃ same, rowsFor survey [(column.name, word)] = .ok same ∧ row ∈ same
  /-- The others are all the other rows of the survey. -/
  mem_outside : ∀ row, row ∈ outside ↔ row ∈ survey.rows.zipIdx ∧ row ∉ inside
  /-- Those without a value are among the others. -/
  missing : ∀ row ∈ survey.rows.zipIdx, row.1.at column = .missing → row ∈ outside
  /-- Each row of the survey is in one of the two, once. -/
  perm : (inside ++ outside).Perm survey.rows.zipIdx
  /-- Both keep the order of the survey. -/
  inOrder : inside.Sublist survey.rows.zipIdx ∧ outside.Sublist survey.rows.zipIdx

/-- Any value parts the rows of a survey by any column. -/
theorem parts_filter (survey : Survey) (column : Column) (value : String) :
    Parts survey column value
      (survey.rows.zipIdx.filter fun row =>
        Condition.isMember (row.1.at column) ((words value).map Literal.ofText))
      (survey.rows.zipIdx.filter fun row =>
        !Condition.isMember (row.1.at column) ((words value).map Literal.ofText)) where
  oneOf := rowsFor_oneOf
  noneOf := rowsFor_noneOf
  answered word _ := ⟨_, rowsFor_equal word⟩
  mem_inside row := by
    simp only [List.mem_filter, Condition.isMember_iff, rowsFor_equal, Except.ok.injEq,
      exists_eq_left', Operator.holds_equal]
    constructor
    · rintro ⟨listed, word, inside, equal⟩
      exact ⟨word, inside, listed, equal⟩
    · rintro ⟨word, inside, listed, equal⟩
      exact ⟨listed, word, inside, equal⟩
  mem_outside row := by
    simp only [List.mem_filter, Bool.not_eq_true', not_and, Bool.not_eq_true]
    constructor
    · rintro ⟨listed, absent⟩
      exact ⟨listed, fun _ => absent⟩
    · rintro ⟨listed, absent⟩
      exact ⟨listed, absent listed⟩
  missing row listed absent := by
    rw [List.mem_filter, absent, Condition.isMember_missing]
    exact ⟨listed, rfl⟩
  perm := List.filter_append_perm _ _
  inOrder := ⟨List.filter_sublist, List.filter_sublist⟩

/-- A value parts the rows of a survey by a column: the rows of its set are those that its words
find one by one, and the rows of the complement are all the others. Another value with the same
trimmed pieces, in whatever order, padding and repetition, parts them in the same way. -/
theorem parts_of_pieces (survey : Survey) (column : Column) (value : String) :
    ∃ inside outside, Parts survey column value inside outside ∧
      ∀ other,
        (∀ word, (∃ piece ∈ Text.pieces ',' value, Text.trim piece = word) ↔
          ∃ piece ∈ Text.pieces ',' other, Text.trim piece = word) →
        Parts survey column other inside outside := by
  refine ⟨_, _, parts_filter survey column value, ?_⟩
  intro other same
  have words_same (word : String) : word ∈ words value ↔ word ∈ words other := by
    rw [mem_words, mem_words, same]
  simp only [Condition.isMember_congr words_same]
  exact parts_filter survey column other

/-- The salaries of a file are parted by two words, whichever of them comes first. -/
theorem sampleFile_parts_of_pieces : ∃ survey inside outside,
    Survey.ofBytes Survey.sampleFile = .ok survey ∧
      Parts survey .salary "7, 8" inside outside ∧ Parts survey .salary " 8,7\t,7" inside outside ∧
      inside.map Prod.snd = [1] ∧ outside.map Prod.snd = [0] := by
  obtain ⟨survey, loaded⟩ := Survey.sampleFile_loads
  obtain ⟨inside, outside, parts, alike⟩ := parts_of_pieces survey .salary "7, 8"
  have same : ∀ word, (∃ piece ∈ Text.pieces ',' "7, 8", Text.trim piece = word) ↔
      ∃ piece ∈ Text.pieces ',' " 8,7\t,7", Text.trim piece = word := by
    have seven : Text.pieces ',' "7, 8" = ["7", " 8"] := by decide
    have eight : Text.pieces ',' " 8,7\t,7" = [" 8", "7\t", "7"] := by decide
    have trimmed : Text.trim "7\t" = Text.trim "7" := by decide
    intro word
    simp [seven, eight, trimmed, or_comm]
  have positions (suffix : String) :
      (rowsFor survey [(Column.salary.name ++ suffix, "7, 8")]).toOption.map (·.map Prod.snd) =
        ((Survey.ofBytes Survey.sampleFile).toOption.bind fun survey =>
          (rowsFor survey [(Column.salary.name ++ suffix, "7, 8")]).toOption).map
            (·.map Prod.snd) := by
    rw [loaded]
    rfl
  have first := positions "[in]"
  have second := positions "[notin]"
  rw [parts.oneOf] at first
  rw [parts.noneOf] at second
  refine ⟨survey, inside, outside, loaded, parts, alike _ same, Option.some.inj (first.trans ?_),
    Option.some.inj (second.trans ?_)⟩
  · decide +kernel
  · decide +kernel

end SalarySurvey.Query
