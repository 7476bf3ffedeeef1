import SalarySurvey.Proofs.Cells
import SalarySurvey.Proofs.Filters

/-!
# Looking a row up by what it shows

A request with a column and the text that a cell of it shows asks for equality with that text, and
the text is typed anew: digits alone stand for a number, anything else for a text. So the request
finds the row of an integer that is not negative, of a text that is not made of digits alone, and
of a timestamp that loses no fraction when it is shown. It never finds the row of a real number,
whose text has a point or an exponent, of a negative integer, or of a missing value.
-/
namespace SalarySurvey

/-- The text that a cell shows: its string, or the JSON text of its number. -/
def Cell.shown (cell : Cell) : String :=
  match cell.json with
  | .string s => s
  | value => value.render

/-- Whether the text that a cell shows finds the cell. -/
def Cell.Findable : Cell → Prop
  | .missing => False
  | .integer i => 0 ≤ i.toInt
  | .real _ => False
  | .text s => ∃ c ∈ s.toList, c.isDigit = false
  | .timestamp t => t.time.nano = 0

namespace Numeral

/-- A text with another character than a digit is no natural numeral. -/
theorem isNatural_eq_false {text : List Char} {c : Char} (listed : c ∈ text)
    (other : c.isDigit = false) : isNatural text = false := by
  have mixed : text.all Char.isDigit = false := by
    rw [List.all_eq_false]
    exact ⟨c, listed, by simp [other]⟩
  simp [isNatural, mixed]

/-- A text of digits alone is a natural numeral. -/
theorem isNatural_of_forall {text : List Char} (filled : text ≠ [])
    (numeric : ∀ c ∈ text, c.isDigit = true) : isNatural text = true := by
  simpa [isNatural, filled] using numeric

/-- Decimal digits are a natural numeral of their value. -/
theorem isNatural_toDigits (n : Nat) : isNatural (Nat.toDigits 10 n) = true :=
  isNatural_of_forall Nat.toDigits_ne_nil isDigit_of_mem_toDigits

end Numeral

namespace Binary64

/-- A number is written with a point or an exponent. -/
theorem exists_mem_writeMagnitude (magnitude : Nat) :
    ∃ c ∈ jsonStyle.writeMagnitude magnitude, c.isDigit = false := by
  unfold Style.writeMagnitude
  dsimp only
  split
  · refine ⟨'.', ?_, by decide⟩
    unfold Style.writeOut
    dsimp only
    split
    · simp [jsonStyle]
    · split <;> simp
  · exact ⟨'e', by simp [scientific], by decide⟩

/-- The JSON text of a number is no natural numeral, even when the number is whole. -/
theorem isNatural_writeReal (x : Binary64) : Numeral.isNatural (Json.writeReal x) = false := by
  obtain ⟨c, listed, other⟩ : ∃ c ∈ Json.writeReal x, c.isDigit = false := by
    unfold Json.writeReal
    split
    · unfold Style.write
      split
      · exact ⟨'N', by decide, by decide⟩
      · dsimp only
        have body : ∃ c ∈ (if x.magnitude = infinityMagnitude then "inf".toList
            else if x.magnitude = 0 then '0' :: jsonStyle.wholeTail
            else jsonStyle.writeMagnitude x.magnitude), c.isDigit = false := by
          split
          · exact ⟨'i', by decide, by decide⟩
          · split
            · exact ⟨'.', by decide, by decide⟩
            · exact exists_mem_writeMagnitude x.magnitude
        split
        · exact ⟨'-', List.mem_cons_self, by decide⟩
        · exact body
    · exact ⟨'"', by decide, by decide⟩
  exact Numeral.isNatural_eq_false listed other

/-- A natural number is the same number as an integer. -/
theorem ofInt_eq_ofNat {i : Int} (natural : 0 ≤ i) : ofInt i = ofNat i.natAbs := by
  have sign : decide (i < 0) = false := decide_eq_false (by omega)
  rw [ofInt, ofNat, sign]

/-- A number that is not NaN equals itself. -/
theorem compare?_self {x : Binary64} (defined : x.isNaN = false) : x.compare? x = some .eq := by
  simp [compare?, defined, Std.compare_self]

end Binary64

namespace Query

theorem Literal.ofText_of_natural {text : String} (natural : Numeral.isNatural text.toList = true) :
    Literal.ofText text = .number (.ofNat (Numeral.value text.toList)) :=
  if_pos natural

theorem Literal.ofText_of_mixed {text : String} (mixed : Numeral.isNatural text.toList = false) :
    Literal.ofText text = .text text := by
  simp [Literal.ofText, mixed]

/-- An integer shows a literal that it equals, unless it has a minus in front. -/
theorem Literal.compare?_shown_integer (i : Int64) :
    (Literal.ofText (Cell.integer i).shown).compare? (.integer i) = some .eq ↔ 0 ≤ i.toInt := by
  have characters : (Cell.integer i).shown.toList = Json.writeInteger i.toInt :=
    String.toList_ofList
  by_cases negative : i.toInt < 0
  · have minus : '-' ∈ (Cell.integer i).shown.toList := by
      rw [characters, Json.writeInteger, if_pos negative]
      exact List.mem_cons_self
    rw [ofText_of_mixed (Numeral.isNatural_eq_false minus (by decide))]
    constructor
    · intro equal
      contradiction
    · intro natural
      omega
  · have digits : (Cell.integer i).shown.toList = Nat.toDigits 10 i.toInt.natAbs := by
      rw [characters, Json.writeInteger, if_neg negative]
    have natural : Numeral.isNatural (Cell.integer i).shown.toList = true := by
      rw [digits]
      exact Numeral.isNatural_toDigits _
    have defined : (Binary64.ofNat i.toInt.natAbs).isNaN = false := Binary64.isNaN_ofUnits ..
    -- The integer and its digits are rounded from the same natural number.
    rw [ofText_of_natural natural, digits, Numeral.value_toDigits, compare?,
      Binary64.ofInt_eq_ofNat (by omega), Binary64.compare?_self defined]
    simp only [true_iff]
    omega

/-- A text shows a literal that it equals, unless it is made of digits alone. -/
theorem Literal.compare?_shown_text {s : String} (filled : s.toList ≠ []) :
    (Literal.ofText (Cell.text s).shown).compare? (.text s) = some .eq ↔
      ∃ c ∈ s.toList, c.isDigit = false := by
  change (Literal.ofText s).compare? (.text s) = some .eq ↔ _
  by_cases mixed : ∃ c ∈ s.toList, c.isDigit = false
  · obtain ⟨c, listed, other⟩ := mixed
    rw [ofText_of_mixed (Numeral.isNatural_eq_false listed other), compare?, Std.compare_self]
    simp only [true_iff]
    exact ⟨c, listed, other⟩
  · have numeric : ∀ c ∈ s.toList, c.isDigit = true := by
      intro c listed
      by_contra other
      exact mixed ⟨c, listed, by simpa using other⟩
    rw [ofText_of_natural (Numeral.isNatural_of_forall filled numeric)]
    constructor
    · intro equal
      contradiction
    · intro found
      contradiction

/-- A timestamp shows a literal that it equals, unless it has a fraction. -/
theorem Literal.compare?_shown_timestamp {source : String} {t : Timestamp}
    (named : Timestamp.read? source = some t) :
    (Literal.ofText (Cell.timestamp t).shown).compare? (.timestamp t) = some .eq ↔
      t.time.nano = 0 := by
  change (Literal.ofText t.render).compare? (.timestamp t) = some .eq ↔ _
  have hyphen : '-' ∈ t.render.toList := by
    rw [Timestamp.render, String.toList_ofList, Timestamp.writeChars_eq]
    simp
  rw [ofText_of_mixed (Numeral.isNatural_eq_false hyphen (by decide)), compare?,
    Timestamp.read?_render_of_read? named, Option.map_some, Option.some.injEq,
    Timestamp.compare_wholeSecond_eq]

/-- A cell of a loaded survey equals the literal that it shows exactly when it is findable. -/
theorem Literal.compare?_shown {cell : Cell} (held : cell.Held) :
    (Literal.ofText cell.shown).compare? cell = some .eq ↔ cell.Findable := by
  cases held with
  | missing => simp [compare?, Cell.Findable]
  | integer i => exact compare?_shown_integer i
  | real finite =>
    rename_i x
    have mixed : Numeral.isNatural (Cell.real x).shown.toList = false := by
      have characters : (Cell.real x).shown.toList = Json.writeReal x := String.toList_ofList
      rw [characters]
      exact Binary64.isNatural_writeReal x
    rw [ofText_of_mixed mixed]
    simp [compare?, Cell.Findable]
  | text plain => exact compare?_shown_text (Cell.Held.text plain).text_ne_empty
  | timestamp named => exact compare?_shown_timestamp named

/-- Equality holds of equal outcomes only. -/
theorem Operator.holds_equal {outcome : Option Ordering} :
    Operator.equal.holds outcome = true ↔ outcome = some .eq := by
  rcases outcome with _ | (_ | _ | _) <;> decide

/-- A request for a condition alone is a plan of it. -/
theorem Plan.ofParameters_condition {key value : String} {condition : Condition}
    (accepted : Condition.ofParameter key value = .ok condition) :
    Plan.ofParameters [(key, value)] = .ok ⟨[condition], none, none⟩ := by
  obtain ⟨notSort, notFields⟩ := Condition.key_ne accepted
  simp [Plan.ofParameters, collapse, setParameter, Plan.add, notSort, notFields, accepted,
    Except.map, bind, Except.bind, pure, Except.pure]

/-- A request for the text that a cell of a loaded survey shows, in the column of the cell, is
answered, and the answer has the row of the cell exactly when the cell is an integer that is not
negative, a text with another character than a digit, or a timestamp without a fraction. -/
theorem mem_positions_shown_iff {bytes : List UInt8} {survey : Survey}
    (loaded : Survey.ofBytes bytes = .ok survey) {row : Row} {position : Nat}
    (stands : survey.rows[position]? = some row) (column : Column) :
    ∃ found, answer survey [(column.name, (row.at column).shown)] = .ok found ∧
      (position ∈ found.positions ↔ (row.at column).Findable) := by
  have held := Survey.held_of_ofBytes loaded (List.mem_of_getElem? stands) column
  have planned :=
    Plan.ofParameters_condition (Condition.ofParameter_name column (row.at column).shown)
  refine ⟨_, by rw [answer, planned]; rfl, ?_⟩
  rw [(selects_answer (Survey.typed_of_ofBytes loaded) _).mem_iff, stands,
    ← Literal.compare?_shown held]
  simp only [Option.some.injEq, exists_eq_left', List.mem_singleton, forall_eq, Condition.holds,
    Condition.holdsFor, Operator.holds_equal]

/-- The first row of a file is found by the text of its employment. -/
theorem sampleFile_mem_positions_shown : ∃ survey row, Survey.ofBytes Survey.sampleFile = .ok survey ∧
    survey.rows[0]? = some row ∧ row.at .employmentType = .text "full, \"time\"" ∧
    ∃ found, answer survey [(Column.employmentType.name, (row.at .employmentType).shown)] =
        .ok found ∧
      (0 ∈ found.positions ↔ (row.at .employmentType).Findable) ∧
      (row.at .employmentType).Findable := by
  obtain ⟨survey, loaded⟩ := Survey.sampleFile_loads
  have first : ((Survey.ofBytes Survey.sampleFile).toOption.bind (·.rows[0]?)).map
      (·.at .employmentType) = some (.text "full, \"time\"") := by
    decide +kernel
  simp only [loaded, Except.toOption, Option.bind_some, Option.map_eq_some_iff] at first
  obtain ⟨row, stands, text⟩ := first
  obtain ⟨found, answered, listed⟩ := mem_positions_shown_iff loaded stands .employmentType
  refine ⟨survey, row, loaded, stands, text, found, answered, listed, ?_⟩
  rw [text]
  exact ⟨'f', by decide, by decide⟩

end Query

end SalarySurvey
