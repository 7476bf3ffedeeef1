import SalarySurvey.Proofs.Associations
import SalarySurvey.Proofs.Digits
import SalarySurvey.Query.Plan
import Mathlib.Data.List.TakeWhile

/-!
# Requests by canonical names

A canonical name consists of letters, digits and underscores. So it is a word list of one word,
a key without an operator, and with the name of an operator in brackets behind it a key of that
operator: the search for the last operator finds these brackets and nothing later.
-/
namespace SalarySurvey

/-- A canonical name has letters, digits and underscores only. -/
theorem Column.name_plain (column : Column) :
    ∀ c ∈ column.name.toList, Text.inRanges Text.plainRanges c.toNat = true := by
  have each : column.name.toList.all (fun c => Text.inRanges Text.plainRanges c.toNat) = true := by
    cases column <;> decide
  exact List.all_eq_true.mp each

/-- A canonical name lacks every other character. -/
theorem Column.not_mem_name (column : Column) {c : Char}
    (special : Text.inRanges Text.plainRanges c.toNat = false) :
    c ∉ column.name.toList := by
  intro listed
  have plain := column.name_plain c listed
  rw [special] at plain
  contradiction

/-- A canonical name is not empty. -/
theorem Column.name_ne_empty (column : Column) : column.name.toList ≠ [] := by
  cases column <;> decide

namespace Query

/-- A text without commas and blanks is a list of one word. -/
theorem words_of_plain {text : String} (joined : ',' ∉ text.toList)
    (solid : ∀ c ∈ text.toList, Text.isBlank c = false) : words text = [text] := by
  have whole : text.toList.splitOn ',' = [text.toList] := by
    apply List.splitOnP_eq_singleton
    intro c listed
    simp only [beq_eq_false_iff_ne]
    rintro rfl
    contradiction
  simp [words, Text.pieces, whole, Text.trim, Text.trimChars_of_forall solid, List.eraseDups_cons]

/-- A canonical name is the list of its column. -/
theorem columns_name (column : Column) : columns column.name = .ok [column] := by
  have solid : ∀ c ∈ column.name.toList, Text.isBlank c = false := fun c listed =>
    Text.isBlank_of_plain (column.name_plain c listed)
  rw [columns, words_of_plain (column.not_mem_name (by decide)) solid]
  simp [columnsOf, Column.ofName?_name, Except.map]

/-- A name stands for the operator that is listed with it. -/
theorem Operator.ofSuffix?_eq_some {name : String} {operator : Operator} :
    ofSuffix? name = some operator ↔ (name, operator) ∈ suffixes :=
  (mem_iff_lookup (by decide)).symm

/-- A text starts with no operator if it starts with none of the names in brackets. -/
theorem operatorAt?_eq_none {text : List Char} :
    operatorAt? text = none ↔ ∀ name operator, (name, operator) ∈ Operator.suffixes →
      ¬('[' :: name.toList ++ [']']) <+: text := by
  constructor
  · intro absent name operator named begins
    cases first : suffixAt? text with
    | none =>
      have refused := List.find?_eq_none.mp first name (List.mem_map.mpr ⟨_, named, rfl⟩)
      exact refused (List.isPrefixOf_iff_prefix.mpr begins)
    | some other =>
      obtain ⟨⟨_, found⟩, inside, rfl⟩ := List.mem_map.mp (List.mem_of_find?_eq_some first)
      rw [operatorAt?, first, Option.bind_some, Operator.ofSuffix?_eq_some.mpr inside] at absent
      contradiction
  · intro refused
    have first : suffixAt? text = none := by
      rw [suffixAt?, List.find?_eq_none]
      intro name listed begins
      obtain ⟨⟨_, operator⟩, inside, rfl⟩ := List.mem_map.mp listed
      exact refused _ _ inside (List.isPrefixOf_iff_prefix.mp begins)
    rw [operatorAt?, first, Option.bind_none]

/-- An operator found at the front of a text is found behind any characters, if there is none
behind it. -/
theorem lastOperator?_append {tail : List Char} {operator : Operator}
    (found : lastOperator? tail = some ([], operator)) (field : List Char) :
    lastOperator? (field ++ tail) = some (field, operator) := by
  induction field with
  | nil => exact found
  | cons c field ih => simp [lastOperator?, ih]

/-- The last operator of a name in brackets is the one it names. -/
theorem lastOperator?_suffix {name : String} {operator : Operator}
    (named : (name, operator) ∈ Operator.suffixes) :
    lastOperator? ('[' :: name.toList ++ [']']) = some ([], operator) := by
  have each : ∀ suffix ∈ Operator.suffixes,
      lastOperator? ('[' :: suffix.1.toList ++ [']']) = some ([], suffix.2) := by decide
  exact each _ named

/-- A text without brackets has no operator. -/
theorem lastOperator?_of_not_mem {text : List Char} (plain : '[' ∉ text) :
    lastOperator? text = none := by
  induction text with
  | nil => rfl
  | cons c text ih =>
    rw [List.mem_cons, not_or] at plain
    have first : operatorAt? (c :: text) = none := by
      rw [operatorAt?_eq_none]
      intro name operator named begins
      exact plain.1 (List.cons_prefix_cons.mp begins).1
    simp [lastOperator?, ih plain.2, first]

/-- A key of one line without brackets is a field as a whole. -/
theorem splitKey_of_not_mem {key : String} (plain : '[' ∉ key.toList) :
    splitKey key = (key, .equal) := by
  have part : '[' ∉ key.toList.takeWhile (· != '\n') := fun listed =>
    plain (List.takeWhile_subset _ listed)
  unfold splitKey
  split
  · rfl
  · next c rest line =>
    rw [line, List.mem_cons, not_or] at part
    rw [lastOperator?_of_not_mem part.2]

/-- A field of one line with the name of an operator in brackets behind it is a key of that
operator. -/
theorem splitKey_append {field name suffix : String} {operator : Operator}
    (named : (name, operator) ∈ Operator.suffixes)
    (brackets : suffix.toList = '[' :: name.toList ++ [']']) (filled : field.toList ≠ [])
    (line : '\n' ∉ field.toList) : splitKey (field ++ suffix) = (field, operator) := by
  have names : ∀ suffix ∈ Operator.suffixes, '\n' ∉ '[' :: suffix.1.toList ++ [']'] := by decide
  have text : (field ++ suffix).toList = field.toList ++ ('[' :: name.toList ++ [']']) := by
    rw [String.toList_append, brackets]
  have whole : (field.toList ++ ('[' :: name.toList ++ [']'])).takeWhile (· != '\n') =
      field.toList ++ ('[' :: name.toList ++ [']']) := by
    rw [List.takeWhile_eq_self_iff]
    intro c listed
    rw [bne_iff_ne]
    rintro rfl
    rcases List.mem_append.mp listed with inside | behind
    · exact line inside
    · exact names _ named behind
  unfold splitKey
  rw [text, whole]
  cases characters : field.toList with
  | nil => contradiction
  | cons c rest =>
    have found := lastOperator?_append (lastOperator?_suffix named) rest
    simp only [List.cons_append] at found ⊢
    rw [found]
    change (String.ofList (c :: rest), operator) = _
    rw [← characters, String.ofList_toList]

/-- The operand that a value is to an operator: the set of its words if the operator takes one, and
else the value as it is. -/
def operandOf (operator : Operator) (value : String) : Operand :=
  if operator.takesSet then .set ((words value).map Literal.ofText)
  else .scalar (Literal.ofText value)

theorem operandOf_single {operator : Operator} (single : operator.takesSet = false)
    (value : String) : operandOf operator value = .scalar (Literal.ofText value) :=
  if_neg (by simp [single])

/-- A key of a column and an operator is a condition on that column. -/
theorem Condition.ofParameter_split {key : String} {column : Column} {operator : Operator}
    (split : splitKey key = (column.name, operator)) (value : String) :
    Condition.ofParameter key value = .ok ⟨column, operator, operandOf operator value⟩ := by
  simp [Condition.ofParameter, split, Column.ofName?_name, operandOf]

/-- A canonical name as a key asks for equality. -/
theorem Condition.ofParameter_name (column : Column) (value : String) :
    Condition.ofParameter column.name value =
      .ok ⟨column, .equal, .scalar (Literal.ofText value)⟩ :=
  ofParameter_split (splitKey_of_not_mem (column.not_mem_name (by decide))) value

/-- A canonical name with the name of an operator in brackets behind it asks for that operator. -/
theorem Condition.ofParameter_suffix (column : Column) {name suffix : String}
    {operator : Operator} (named : (name, operator) ∈ Operator.suffixes)
    (brackets : suffix.toList = '[' :: name.toList ++ [']']) (value : String) :
    Condition.ofParameter (column.name ++ suffix) value =
      .ok ⟨column, operator, operandOf operator value⟩ :=
  ofParameter_split (splitKey_append named brackets column.name_ne_empty
    (column.not_mem_name (by decide))) value

/-- If the operator is one for a literal, it is asked for with the literal of the value. -/
theorem Condition.ofParameter_append (column : Column) {name suffix : String}
    {operator : Operator} (named : (name, operator) ∈ Operator.suffixes)
    (brackets : suffix.toList = '[' :: name.toList ++ [']']) (single : operator.takesSet = false)
    (value : String) : Condition.ofParameter (column.name ++ suffix) value =
      .ok ⟨column, operator, .scalar (Literal.ofText value)⟩ := by
  rw [ofParameter_suffix column named brackets, operandOf_single single]

/-- The key of a condition is none of the two keys with a meaning of their own. -/
theorem Condition.key_ne {key value : String} {condition : Condition}
    (accepted : Condition.ofParameter key value = .ok condition) :
    key ≠ "sort" ∧ key ≠ "fields" := by
  constructor
  · rintro rfl
    have refused : Condition.ofParameter "sort" value = .error (.unsupportedKey "sort") := rfl
    rw [refused] at accepted
    contradiction
  · rintro rfl
    have refused : Condition.ofParameter "fields" value = .error (.unsupportedKey "fields") := rfl
    rw [refused] at accepted
    contradiction

/-- A request for a sort column is a plan without conditions. -/
theorem Plan.ofParameters_sort (column : Column) :
    Plan.ofParameters [("sort", column.name)] = .ok ⟨[], some [column], none⟩ := by
  rw [Plan.ofParameters, collapse]
  simp [setParameter, Plan.add, columns_name, Except.map, bind, Except.bind, pure, Except.pure]

/-- A request for a sort column and a condition is a plan of both. -/
theorem Plan.ofParameters_sort_condition (column : Column) {key value : String}
    {condition : Condition} (accepted : Condition.ofParameter key value = .ok condition) :
    Plan.ofParameters [("sort", column.name), (key, value)] =
      .ok ⟨[condition], some [column], none⟩ := by
  obtain ⟨notSort, notFields⟩ := Condition.key_ne accepted
  have kept : collapse [("sort", column.name), (key, value)] =
      [("sort", column.name), (key, value)] := by
    simp [collapse, setParameter, notSort.symm]
  rw [Plan.ofParameters, kept]
  simp [Plan.add, columns_name, Except.map, notSort, notFields, accepted, bind, Except.bind,
    pure, Except.pure]

end Query

end SalarySurvey
