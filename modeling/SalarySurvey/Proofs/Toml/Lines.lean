import SalarySurvey.Proofs.Toml.Values

/-!
# Written lines

A document of tables is written in lines: headers of one name, and keys with their values, among
lines without contents. The readers take such a document line by line, each up to its end, and find
the statements of its lines. If one value cannot be read the whole document cannot.
-/
namespace SalarySurvey.Toml

/-- A name that needs no quotes. -/
structure IsBare (name : String) : Prop where
  /-- It has a character. -/
  filled : name.toList ≠ []
  /-- It has only letters, digits, underscores and hyphens. -/
  plain : ∀ c ∈ name.toList, c.isAlphanum = true ∨ c = '_' ∨ c = '-'

instance (name : String) : Decidable (IsBare name) :=
  letI := List.decidableBAll (fun c => c.isAlphanum = true ∨ c = '_' ∨ c = '-') name.toList
  decidable_of_iff
    (name.toList ≠ [] ∧ ∀ c ∈ name.toList, c.isAlphanum = true ∨ c = '_' ∨ c = '-')
    ⟨fun ⟨filled, plain⟩ => ⟨filled, plain⟩, fun ⟨filled, plain⟩ => ⟨filled, plain⟩⟩

/-- The ways to write the contents of a line. -/
inductive WritesStatement : Statement → List Char → Prop where
  /-- A name in brackets. -/
  | header {name : String} {before behind : List Char} (bare : IsBare name)
    (isBefore : IsGap before) (isBehind : IsGap behind) :
    WritesStatement (.header [] name) ('[' :: before ++ name.toList ++ behind ++ [']'])
  /-- A key, an equals sign and a value. -/
  | entry {key : String} {value : Toml} {before behind text : List Char} (bare : IsBare key)
    (isBefore : IsGap before) (isBehind : IsGap behind) (writes : WritesValue value text) :
    WritesStatement (.entry [] key value) (key.toList ++ before ++ '=' :: behind ++ text)

/-- The ways to write a document of some statements. -/
inductive WritesLines : List Statement → List Char → Prop where
  /-- A last line without contents. -/
  | ended {remark : List Char} (isRemark : Remark remark) : WritesLines [] remark
  /-- A line without contents. -/
  | blank {tail text : List Char} {statements : List Statement} (isTail : LineTail tail)
    (more : WritesLines statements text) : WritesLines statements (tail ++ text)
  /-- A last line. -/
  | last {gap line remark : List Char} {statement : Statement} (isGap : IsGap gap)
    (writes : WritesStatement statement line) (isRemark : Remark remark) :
    WritesLines [statement] (gap ++ line ++ remark)
  /-- A line in front of others. -/
  | next {gap line tail text : List Char} {statement : Statement} {statements : List Statement}
    (isGap : IsGap gap) (writes : WritesStatement statement line) (isTail : LineTail tail)
    (more : WritesLines statements text) :
    WritesLines (statement :: statements) (gap ++ line ++ tail ++ text)

section Statements

variable {name : String} {text rest later gap line : List Char} {statement : Statement}
  {statements : List Statement} {fuel : Nat}

/-- Whether the readers can read a statement. -/
def Statement.fits : Statement → Bool
  | entry _ _ value => value.fits
  | _ => true

/-- What is no character of a bare name. -/
theorem ne_of_isBareChar {c d : Char} (bare : isBareChar c = true) (other : isBareChar d = false) :
    c ≠ d := by
  rintro rfl
  rw [bare] at other
  contradiction

/-- A bare name consists of the characters that the readers take for one. -/
theorem IsBare.isBareChar (bare : IsBare name) : ∀ c ∈ name.toList, isBareChar c = true := by
  intro c listed
  simpa [Toml.isBareChar, or_assoc] using bare.plain c listed

/-- A bare name begins with one of them. -/
theorem IsBare.exists_cons (bare : IsBare name) :
    ∃ c more, name.toList = c :: more ∧ Toml.isBareChar c = true := by
  obtain ⟨c, more, shape⟩ := List.exists_cons_of_ne_nil bare.filled
  exact ⟨c, more, shape, bare.isBareChar c (by rw [shape]; exact List.mem_cons_self)⟩

/-- A bare name is read up to the first other character. -/
theorem IsBare.name?_eq (bare : IsBare name) (ends : ∀ c ∈ rest.head?, Toml.isBareChar c = false) :
    name? (name.toList ++ rest) = some (name, rest) := by
  have taken := takeWhile_append_stop bare.isBareChar ends
  have left := dropWhile_append_stop bare.isBareChar ends
  obtain ⟨c, more, shape, first⟩ := bare.exists_cons
  have noQuote : ¬(c = '"' ∨ c = apostrophe) := by
    rw [not_or]
    exact ⟨ne_of_isBareChar first (by decide), ne_of_isBareChar first (by decide)⟩
  have name_eq : String.ofList (c :: more) = name := by rw [← shape, String.ofList_toList]
  rw [shape, List.cons_append] at taken left ⊢
  simp [name?, noQuote, taken, left, name_eq]

/-- A bare name begins contents. -/
theorem IsBare.content (bare : IsBare name) (rest : List Char) : Content (name.toList ++ rest) := by
  obtain ⟨c, more, shape, first⟩ := bare.exists_cons
  refine ⟨c, more ++ rest, by rw [shape, List.cons_append], fun listed => ?_⟩
  have each : ∀ d ∈ [' ', '\t', '#', '\n', '\r'], Toml.isBareChar d = false :=
    List.all_iff_forall_prop.mp (by decide)
  exact ne_of_isBareChar first (each c listed) rfl

/-- A bare name with gaps around it is a key in front of a mark that ends keys. -/
theorem IsBare.key?_eq {before behind : List Char} {mark : Char} (bare : IsBare name)
    (isBefore : IsGap before) (isBehind : IsGap behind) (listed : mark = '=' ∨ mark = ']') :
    key? (before ++ (name.toList ++ (behind ++ mark :: rest))) =
      some (([], name), mark :: rest) := by
  have front : skipSpaces (before ++ (name.toList ++ (behind ++ mark :: rest))) =
      name.toList ++ (behind ++ mark :: rest) :=
    skipSpaces_gap_content isBefore (bare.content _)
  have named : name? (name.toList ++ (behind ++ mark :: rest)) =
      some (name, behind ++ mark :: rest) := by
    apply bare.name?_eq
    intro c first
    cases behind with
    | nil =>
      obtain rfl : mark = c := by simpa using first
      rcases listed with rfl | rfl <;> decide
    | cons d behind =>
      obtain rfl : d = c := by simpa using first
      rcases isBehind d List.mem_cons_self with rfl | rfl <;> decide
  have back : skipSpaces (behind ++ mark :: rest) = mark :: rest :=
    skipSpaces_gap_content isBehind
      ⟨mark, rest, rfl, by rcases listed with rfl | rfl <;> decide⟩
  have noPoint : mark ≠ '.' := by rcases listed with rfl | rfl <;> decide
  simp [key?, names?, front, named, back, noPoint]

/-- A written statement begins with a bracket or a character of a name. -/
theorem WritesStatement.exists_cons (writes : WritesStatement statement text) :
    ∃ c more, text = c :: more ∧ (c = '[' ∨ isBareChar c = true) := by
  cases writes with
  | header _ _ _ => exact ⟨'[', _, rfl, .inl rfl⟩
  | entry bare _ _ _ =>
    obtain ⟨c, more, shape, first⟩ := bare.exists_cons
    rw [shape]
    exact ⟨c, _, rfl, .inr first⟩

/-- A written statement begins contents. -/
theorem WritesStatement.content (writes : WritesStatement statement text) (rest : List Char) :
    Content (text ++ rest) := by
  obtain ⟨c, more, rfl, first⟩ := writes.exists_cons
  refine ⟨c, more ++ rest, rfl, fun listed => ?_⟩
  have each : ∀ d ∈ [' ', '\t', '#', '\n', '\r'], d ≠ '[' ∧ isBareChar d = false :=
    List.all_iff_forall_prop.mp (by decide)
  rcases first with bracket | bare
  · exact (each c listed).1 bracket
  · exact ne_of_isBareChar bare (each c listed).2 rfl

theorem WritesStatement.length_pos (writes : WritesStatement statement text) :
    0 < text.length := by
  obtain ⟨c, more, rfl, -⟩ := writes.exists_cons
  exact Nat.succ_pos _

/-- A bare name does not begin with a bracket, with a gap in front or without. -/
theorem IsBare.ne_bracket {before : List Char} (bare : IsBare name) (isBefore : IsGap before)
    (more : List Char) : before ++ (name.toList ++ rest) ≠ '[' :: more := by
  intro same
  cases before with
  | nil =>
    obtain ⟨c, others, shape, first⟩ := bare.exists_cons
    rw [shape] at same
    exact ne_of_isBareChar first (by decide) (List.cons.inj same).1
  | cons c before =>
    obtain rfl := (List.cons.inj same).1
    simpa using isBefore '[' List.mem_cons_self

/-- A header is read. -/
theorem statement?_header {before behind : List Char} (bare : IsBare name)
    (isBefore : IsGap before) (isBehind : IsGap behind) :
    statement? ('[' :: (before ++ (name.toList ++ (behind ++ ']' :: rest)))) =
      some (.header [] name, rest) := by
  have read : key? (before ++ (name.toList ++ (behind ++ ']' :: rest))) =
      some (([], name), ']' :: rest) := bare.key?_eq isBefore isBehind (.inr rfl)
  unfold statement?
  split
  · next more same => exact absurd (List.cons.inj same).2 (bare.ne_bracket isBefore more)
  · next more _ same =>
    obtain rfl := (List.cons.inj same).2
    rw [read]
    rfl
  · next other => exact absurd rfl (other _)

/-- A key with its value is read if the value fits. -/
theorem statement?_entry {before behind : List Char} {value : Toml} (bare : IsBare name)
    (isBefore : IsGap before) (isBehind : IsGap behind) (writes : WritesValue value text)
    (closes : Closes rest) :
    statement? (name.toList ++ (before ++ '=' :: (behind ++ (text ++ rest)))) =
      if value.fits then some (.entry [] name value, skipSpaces rest) else none := by
  have none_before : IsGap [] := fun _ listed => nomatch listed
  have keyed : key? (name.toList ++ (before ++ '=' :: (behind ++ (text ++ rest)))) =
      some (([], name), '=' :: (behind ++ (text ++ rest))) :=
    bare.key?_eq none_before isBefore (.inl rfl)
  have front : skipSpaces (behind ++ (text ++ rest)) = text ++ rest :=
    skipSpaces_gap_content isBehind (writes.content rest)
  have read : value? maxDepth (text ++ rest) = if value.fits then some (value, rest) else none :=
    writes.value?_eq closes (maxDepth - 1)
  unfold statement?
  split
  · next more same => exact absurd same (bare.ne_bracket none_before _)
  · next more _ same => exact absurd same (bare.ne_bracket none_before _)
  · rw [pair?, keyed]
    simp only [Option.bind_eq_bind, Option.bind_some, after?, ↓reduceIte, front, read]
    cases value.fits <;> rfl

/-- A written statement is read if it fits, perhaps with the spaces behind it. -/
theorem WritesStatement.statement?_eq (writes : WritesStatement statement text)
    (closes : Closes rest) :
    ∃ left, endLine? left = endLine? rest ∧
      statement? (text ++ rest) = if statement.fits then some (statement, left) else none := by
  cases writes with
  | header bare isBefore isBehind =>
    refine ⟨rest, rfl, ?_⟩
    simp only [List.append_assoc, List.cons_append]
    exact statement?_header bare isBefore isBehind
  | entry bare isBefore isBehind writes =>
    refine ⟨skipSpaces rest, endLine?_skipSpaces rest, ?_⟩
    simp only [List.append_assoc, List.cons_append]
    exact statement?_entry bare isBefore isBehind writes closes

/-- A line that ends has no statement. -/
theorem statements?_of_endLine? (ends : endLine? text = some rest) :
    statements? (fuel + 2) text = statements? (fuel + 1) rest := by
  rw [statements?]
  split
  · next empty =>
    have nothing : endLine? text = some [] := by
      rw [← endLine?_skipSpaces, empty]
      rfl
    obtain rfl := Option.some.inj (ends.symm.trans nothing)
    rfl
  · next ended _ =>
    obtain rfl := Option.some.inj (ends.symm.trans ended)
    rfl
  · next goesOn _ =>
    rw [ends] at goesOn
    contradiction

/-- A line with a statement is read if the statement fits. -/
theorem WritesStatement.statements?_eq (isGap : IsGap gap)
    (writes : WritesStatement statement line) (closes : Closes rest)
    (ends : endLine? rest = some later) :
    statements? (fuel + 1) (gap ++ (line ++ rest)) =
      if statement.fits then (statements? fuel later).map (statement :: ·) else none := by
  have content := writes.content rest
  have front : skipSpaces (gap ++ (line ++ rest)) = line ++ rest :=
    skipSpaces_gap_content isGap content
  have goesOn : endLine? (gap ++ (line ++ rest)) = none := by
    rw [← endLine?_skipSpaces, front]
    exact content.endLine?_eq
  obtain ⟨left, same, read⟩ := writes.statement?_eq closes
  rw [statements?, front, goesOn]
  obtain ⟨c, more, shape, -⟩ := content
  split
  · next empty =>
    rw [empty] at shape
    contradiction
  · next ended _ => contradiction
  · rw [read]
    cases statement.fits with
    | false => rfl
    | true =>
      show (endLine? left).bind _ = _
      rw [same, ends]
      rfl

/-- A written document is read if its statements fit. -/
theorem WritesLines.statements?_eq (writes : WritesLines statements text)
    (enough : text.length < fuel) :
    statements? fuel text = if statements.all Statement.fits then some statements else none := by
  -- Every round takes a character, so more rounds than characters are enough.
  induction writes generalizing fuel with
  | @ended remark isRemark =>
    match remark, fuel with
    | _, 0 => contradiction
    | [], fuel + 1 => rfl
    | c :: remark, 1 => simp at enough
    | c :: remark, fuel + 2 =>
      rw [statements?_of_endLine? isRemark.endLine?_eq]
      rfl
  | @blank tail text statements isTail _ ih =>
    have filled := isTail.length_pos
    rw [List.length_append] at enough
    obtain ⟨fuel, rfl⟩ : ∃ less, fuel = less + 2 := ⟨fuel - 2, by omega⟩
    rw [statements?_of_endLine? isTail.endLine?_eq, ih (by omega)]
  | @last gap line remark statement isGap writes isRemark =>
    have filled := writes.length_pos
    rw [List.length_append, List.length_append] at enough
    obtain ⟨fuel, rfl⟩ : ∃ less, fuel = less + 2 := ⟨fuel - 2, by omega⟩
    have nothing : statements? (fuel + 1) [] = some [] := rfl
    rw [List.append_assoc, writes.statements?_eq isGap isRemark.closes_self isRemark.endLine?_eq,
      nothing]
    simp
  | @next gap line tail text statement statements isGap writes isTail _ ih =>
    have filled := writes.length_pos
    simp only [List.length_append] at enough
    obtain ⟨fuel, rfl⟩ : ∃ less, fuel = less + 1 := ⟨fuel - 1, by omega⟩
    rw [List.append_assoc, List.append_assoc,
      writes.statements?_eq isGap (isTail.closes text) isTail.endLine?_eq, ih (by omega)]
    cases first : statement.fits <;> cases others : statements.all Statement.fits <;>
      simp [first, others]

/-- A written document begins with no byte order mark. -/
theorem WritesLines.head?_ne (writes : WritesLines statements text) :
    text.head? ≠ some '\uFEFF' := by
  have unclosed {rest : List Char} (closes : Closes rest) : rest.head? ≠ some '\uFEFF' :=
    fun mark => absurd (closes _ mark) (by decide)
  have unmarked {gap line rest : List Char} {statement : Statement} (isGap : IsGap gap)
      (writes : WritesStatement statement line) :
      (gap ++ line ++ rest).head? ≠ some '\uFEFF' := by
    rw [List.append_assoc]
    cases gap with
    | nil =>
      obtain ⟨c, more, rfl, first⟩ := writes.exists_cons
      intro mark
      obtain rfl := Option.some.inj mark
      exact absurd first (by decide)
    | cons c gap =>
      intro mark
      obtain rfl := Option.some.inj mark
      exact absurd (isGap _ List.mem_cons_self) (by decide)
  cases writes with
  | ended isRemark => exact unclosed isRemark.closes_self
  | blank isTail _ => exact unclosed (isTail.closes _)
  | last isGap writes _ => exact unmarked isGap writes
  | next isGap writes _ _ =>
    rw [List.append_assoc]
    exact unmarked isGap writes

/-- A written document is read if its statements fit and make up tables. -/
theorem WritesLines.document?_eq {text : String} (writes : WritesLines statements text.toList) :
    document? text = if statements.all Statement.fits then ofStatements? statements else none := by
  have unmarked := writes.head?_ne
  have read := writes.statements?_eq (Nat.lt_succ_self _)
  unfold document?
  split
  · next rest mark =>
    rw [mark] at unmarked
    exact absurd rfl unmarked
  · show (statements? text.toList.length.succ text.toList).bind ofStatements? = _
    rw [read]
    split <;> rfl

/-- A document can be written if its statements can. -/
theorem exists_writesLines (each : ∀ statement ∈ statements, ∃ text, WritesStatement statement text) :
    ∃ text, WritesLines statements text := by
  have noGap : IsGap [] := fun _ listed => nomatch listed
  induction statements with
  | nil => exact ⟨_, .ended (.mk noGap .absent)⟩
  | cons statement statements ih =>
    rw [List.forall_mem_cons] at each
    obtain ⟨line, writes⟩ := each.1
    obtain ⟨text, more⟩ := ih each.2
    exact ⟨_, .next noGap writes (.feed (.mk noGap .absent)) more⟩

end Statements

end SalarySurvey.Toml
