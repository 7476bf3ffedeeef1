import SalarySurvey.Proofs.Keys

/-!
# The grammar of keys

A key may have several operators in brackets, and other text between and behind them. The last
operator in the first line of the key counts, among those with a character in front of them; the
field is what stands in front of it. Without such an operator the field is the whole key, and the
condition asks for equality. No name in brackets begins another one, so at one place of a text
there is at most one operator, and a key has one meaning.
-/
namespace SalarySurvey.Query

/-- The operators by their names. -/
inductive Names : String → Operator → Prop where
  /-- Greater than or equal. -/
  | gte : Names "gte" .atLeast
  /-- Less than or equal. -/
  | lte : Names "lte" .atMost
  /-- Greater than. -/
  | gt : Names "gt" .above
  /-- Less than. -/
  | lt : Names "lt" .below
  /-- Not equal. -/
  | ne : Names "ne" .notEqual
  /-- In a set. -/
  | oneOf : Names "in" .oneOf
  /-- Not in a set. -/
  | noneOf : Names "notin" .noneOf

/-- The name of an operator in brackets. -/
def inBrackets (name : String) : List Char :=
  '[' :: name.toList ++ [']']

/-- An operator in brackets occurs in a text behind some characters. -/
def Occurs (text before : List Char) (operator : Operator) : Prop :=
  ∃ name after, Names name operator ∧ text = before ++ (inBrackets name ++ after)

/-- The last of the operators that occur in a text. -/
structure IsLast (text before : List Char) (operator : Operator) : Prop where
  /-- It occurs. -/
  occurs : Occurs text before operator
  /-- None occurs behind it. -/
  length_le : ∀ {other : List Char} {second : Operator}, Occurs text other second →
    other.length ≤ before.length

/-- An operator with a character in front of it occurs in the first line of a key. -/
def Marks (key : String) (field : List Char) (operator : Operator) : Prop :=
  field ≠ [] ∧ Occurs (key.toList.takeWhile (· != '\n')) field operator

/-- The field and the operator that a key means. -/
inductive Means (key : String) : String → Operator → Prop where
  /-- The last operator counts, and what stands in front of it is the field. -/
  | last {field : List Char} {operator : Operator} (marks : Marks key field operator)
    (length_le : ∀ other second, Marks key other second → other.length ≤ field.length) :
    Means key (String.ofList field) operator
  /-- A key without an operator is a field and asks for equality. -/
  | whole (plain : ∀ field operator, ¬Marks key field operator) : Means key key .equal

section Occurrences

variable {text before other : List Char} {operator second : Operator} {c : Char}

/-- These are the names that the search knows. -/
theorem names_iff {name : String} : Names name operator ↔ (name, operator) ∈ Operator.suffixes := by
  constructor
  · rintro ⟨⟩ <;> decide
  · intro listed
    simp only [Operator.suffixes, List.mem_cons, Prod.mk.injEq, List.not_mem_nil, or_false]
      at listed
    rcases listed with ⟨rfl, rfl⟩ | ⟨rfl, rfl⟩ | ⟨rfl, rfl⟩ | ⟨rfl, rfl⟩ | ⟨rfl, rfl⟩ |
      ⟨rfl, rfl⟩ | ⟨rfl, rfl⟩ <;> constructor

/-- No name in brackets begins another one. -/
theorem eq_of_prefix_inBrackets {name longer : String} (named : Names name operator)
    (also : Names longer second) (begins : inBrackets name <+: inBrackets longer) :
    operator = second := by
  have each : ∀ one ∈ Operator.suffixes, ∀ two ∈ Operator.suffixes,
      inBrackets one.1 <+: inBrackets two.1 → one.2 = two.2 := by
    decide
  exact each _ (names_iff.mp named) _ (names_iff.mp also) begins

/-- At one place of a text there is at most one operator. -/
theorem Occurs.unique (occurs : Occurs text before operator)
    (again : Occurs text before second) : operator = second := by
  obtain ⟨name, after, named, rfl⟩ := occurs
  obtain ⟨longer, behind, also, same⟩ := again
  rw [List.append_cancel_left_eq] at same
  have first : inBrackets name <+: inBrackets name ++ after := List.prefix_append ..
  have next : inBrackets longer <+: inBrackets name ++ after := ⟨behind, same.symm⟩
  rcases List.prefix_or_prefix_of_prefix first next with begins | begins
  · exact eq_of_prefix_inBrackets named also begins
  · exact (eq_of_prefix_inBrackets also named begins).symm

/-- A character in front of a text moves the operators in it. -/
theorem occurs_cons : Occurs (c :: text) (c :: before) operator ↔ Occurs text before operator := by
  simp [Occurs]

/-- An operator with something in front of it has the first character of the text in front. -/
theorem Occurs.eq_cons (occurs : Occurs (c :: text) before operator) (inside : before ≠ []) :
    ∃ rest, before = c :: rest ∧ Occurs text rest operator := by
  obtain ⟨d, rest, rfl⟩ := List.exists_cons_of_ne_nil inside
  obtain rfl : c = d := by
    obtain ⟨name, after, -, split⟩ := occurs
    exact (List.cons.inj split).1
  exact ⟨rest, rfl, occurs_cons.mp occurs⟩

/-- The operator that a text starts with. -/
theorem operatorAt?_eq_some : operatorAt? text = some operator ↔ Occurs text [] operator := by
  have sound {found : Operator} (starts : operatorAt? text = some found) :
      Occurs text [] found := by
    obtain ⟨name, first, known⟩ := Option.bind_eq_some_iff.mp starts
    have begins : (inBrackets name).isPrefixOf text = true := by
      simpa [inBrackets] using List.find?_some first
    obtain ⟨after, split⟩ := List.isPrefixOf_iff_prefix.mp begins
    exact ⟨name, after, names_iff.mpr (Operator.ofSuffix?_eq_some.mp known), split.symm⟩
  constructor
  · exact sound
  · intro occurs
    cases starts : operatorAt? text with
    | some found => rw [(sound starts).unique occurs]
    | none =>
      obtain ⟨name, after, named, rfl⟩ := occurs
      have absent := operatorAt?_eq_none.mp starts _ _ (names_iff.mp named)
      simp [inBrackets] at absent

/-- When the search finds no operator, there is none. -/
theorem not_occurs_of_lastOperator? (absent : lastOperator? text = none) :
    ¬Occurs text before operator := by
  induction text generalizing before operator with
  | nil =>
    rintro ⟨name, after, -, split⟩
    simp [inBrackets] at split
  | cons c text ih =>
    unfold lastOperator? at absent
    split at absent
    · contradiction
    · next behind =>
      intro occurs
      by_cases front : before = []
      · subst front
        rw [operatorAt?_eq_some.mpr occurs] at absent
        contradiction
      · obtain ⟨rest, -, inside⟩ := occurs.eq_cons front
        exact ih behind inside

/-- The search finds the last operator. -/
theorem isLast_of_lastOperator? (found : lastOperator? text = some (before, operator)) :
    IsLast text before operator := by
  induction text generalizing before operator with
  | nil => contradiction
  | cons c text ih =>
    unfold lastOperator? at found
    split at found
    · next field within behind =>
      obtain ⟨rfl, rfl⟩ := Prod.mk.inj (Option.some.inj found)
      have last := ih behind
      refine ⟨occurs_cons.mpr last.occurs, ?_⟩
      intro other second occurs
      by_cases front : other = []
      · simp [front]
      · obtain ⟨rest, rfl, inside⟩ := occurs.eq_cons front
        exact Nat.succ_le_succ (last.length_le inside)
    · next behind =>
      obtain ⟨within, starts, pair⟩ := Option.map_eq_some_iff.mp found
      obtain ⟨rfl, rfl⟩ := Prod.mk.inj pair
      refine ⟨operatorAt?_eq_some.mp starts, ?_⟩
      intro other second occurs
      by_cases front : other = []
      · simp [front]
      · obtain ⟨rest, -, inside⟩ := occurs.eq_cons front
        exact absurd inside (not_occurs_of_lastOperator? behind)

end Occurrences

section Meaning

variable {key : String}

/-- An operator of a key occurs behind the first character of its first line. -/
theorem marks_iff {c : Char} {rest field : List Char} {operator : Operator}
    (line : key.toList.takeWhile (· != '\n') = c :: rest) :
    Marks key field operator ↔ ∃ others, field = c :: others ∧ Occurs rest others operator := by
  unfold Marks
  rw [line]
  constructor
  · rintro ⟨filled, occurs⟩
    exact occurs.eq_cons filled
  · rintro ⟨others, rfl, occurs⟩
    exact ⟨List.cons_ne_nil _ _, occurs_cons.mpr occurs⟩

/-- A key is split as it is meant. -/
theorem means_splitKey (key : String) : Means key (splitKey key).1 (splitKey key).2 := by
  unfold splitKey
  split
  · next line =>
    apply Means.whole
    rintro field operator ⟨-, name, after, -, split⟩
    rw [line] at split
    simp [inBrackets] at split
  · next c rest line =>
    cases found : lastOperator? rest with
    | none =>
      apply Means.whole
      intro field operator marks
      obtain ⟨others, -, occurs⟩ := (marks_iff line).mp marks
      exact not_occurs_of_lastOperator? found occurs
    | some pair =>
      have last := isLast_of_lastOperator? found
      apply Means.last ((marks_iff line).mpr ⟨pair.1, rfl, last.occurs⟩)
      intro other second marks
      obtain ⟨others, rfl, occurs⟩ := (marks_iff line).mp marks
      exact Nat.succ_le_succ (last.length_le occurs)

/-- A key has one meaning. -/
theorem Means.unique {field other : String} {operator second : Operator}
    (means : Means key field operator) (also : Means key other second) :
    field = other ∧ operator = second := by
  cases means with
  | last marks length_le =>
    cases also with
    | last marked length_ge =>
      -- Of two fields in front of one line, neither longer than the other, both are the same.
      have lengths := Nat.le_antisymm (length_ge _ _ marks) (length_le _ _ marked)
      obtain ⟨-, name, after, named, split⟩ := id marks
      obtain ⟨-, longer, behind, also, same⟩ := id marked
      obtain ⟨rfl, -⟩ := List.append_inj (split.symm.trans same) lengths
      exact ⟨rfl, marks.2.unique marked.2⟩
    | whole plain => exact absurd marks (plain _ _)
  | whole plain =>
    cases also with
    | last marked _ => exact absurd marked (plain _ _)
    | whole _ => exact ⟨rfl, rfl⟩

end Meaning

/-- A key means one field and one operator, whatever it is. The parameter is refused exactly when
the field is no canonical name, and the refusal names the field. Else it is the condition on that
column with that operator, whose operand has the literals of the words of the value if the operator
takes a set, and else the literal of the value as it is. -/
theorem ofParameter_of_means (key value : String) :
    ∃ field operator, Means key field operator ∧
      (∀ other second, Means key other second → other = field ∧ second = operator) ∧
      (∀ refusal, Condition.ofParameter key value = .error refusal ↔
        refusal = .unsupportedKey field ∧ ∀ column : Column, column.name ≠ field) ∧
      ∀ condition, Condition.ofParameter key value = .ok condition ↔
        condition.column.name = field ∧ condition.operator = operator ∧
          condition.operand =
            if operator = .oneOf ∨ operator = .noneOf then
              .set ((words value).map Literal.ofText)
            else .scalar (Literal.ofText value) := by
  refine ⟨_, _, means_splitKey key, fun _ _ also => also.unique (means_splitKey key), ?_⟩
  unfold Condition.ofParameter
  obtain ⟨field, operator⟩ := splitKey key
  have takes : operator.takesSet = true ↔ operator = .oneOf ∨ operator = .noneOf := by
    cases operator <;> decide
  simp only [← takes]
  cases found : Column.ofName? field with
  | none =>
    have unnamed (column : Column) : column.name ≠ field := by
      rintro rfl
      rw [Column.ofName?_name] at found
      contradiction
    constructor
    · intro refusal
      simp [unnamed, eq_comm]
    · intro condition
      simp [unnamed]
  | some column =>
    have named := Column.name_of_ofName? found
    constructor
    · intro refusal
      simp only [reduceCtorEq, false_iff, not_and]
      rintro - unnamed
      exact unnamed column named
    · intro condition
      rw [Except.ok.injEq]
      constructor
      · rintro rfl
        exact ⟨named, rfl, rfl⟩
      · rintro ⟨same, relation, operand⟩
        rw [← same, Column.ofName?_name, Option.some.injEq] at found
        rw [← operand, ← relation, ← found]

/-- The last name in brackets counts, not the longest one, and what follows it is ignored. -/
example : splitKey "salary[notin][lt]e][gte\n][ne]" = ("salary[notin]", .below) := by decide

/-- An operator in front of everything is part of the field. -/
example : splitKey "[gt]" = ("[gt]", .equal) := by decide

end SalarySurvey.Query
