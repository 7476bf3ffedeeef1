import SalarySurvey.Proofs.Shapes

/-!
# Runs of digits in layouts

A part of a layout that is a number takes digits from the front of a text, up to its width. When a
whole run of digits is within the width the part takes its value; when the run is longer the part
leaves digits behind. Nothing but another number can follow then, so a longer run does not fit in
front of a mark, nor at the end. In front of a gap the digits that are left go to the next number,
which meets the blank behind the run where its mark should be.
-/
namespace SalarySurvey.Layout

/-- A row of at least one digit. -/
structure IsRun (run : List Char) : Prop where
  /-- It has a digit. -/
  filled : run ≠ []
  /-- It has digits only. -/
  numeric : ∀ c ∈ run, c.isDigit = true

/-- The number of digits that a part takes at most, zero if it is no number. -/
def Part.width : Part → Nat
  | .year => 4
  | .month | .day | .hour | .minute | .second => 2
  | .fraction | .gap | .mark _ => 0

/-- Fields with the value of a part that is a number. -/
def Part.put (part : Part) (n : Nat) (fields : Fields) : Fields :=
  match part with
  | .year => { fields with year := n }
  | .month => { fields with month := n }
  | .day => { fields with day := n }
  | .hour => { fields with hour := n }
  | .minute => { fields with minute := n }
  | .second => { fields with second := n }
  | .fraction | .gap | .mark _ => fields

/-- A text in which no digit comes first. -/
abbrev Ends (rest : List Char) : Prop := ∀ c ∈ rest.head?, c.isDigit = false

/-- A text ends in front of a character that is no digit. -/
theorem ends_cons {d : Char} (ended : d.isDigit = false) (rest : List Char) : Ends (d :: rest) := by
  intro c first
  rw [← Option.some.inj first]
  exact ended

section Reading

variable {run rest later : List Char} {part next : Part} {parts : List Part} {fields : Fields}
  {c d : Char}

/-- A reader of digits takes a run up to its limit. -/
theorem digitsUpTo_run (isRun : IsRun run) (ends : Ends rest) (most : Nat) :
    digitsUpTo most (run ++ rest) = (run.take most, run.drop most ++ rest) := by
  have front : ∀ c ∈ run.take most, c.isDigit = true := fun c listed =>
    isRun.numeric c (List.mem_of_mem_take listed)
  have whole : run ++ rest = run.take most ++ (run.drop most ++ rest) := by
    rw [← List.append_assoc, List.take_append_drop]
  rw [whole]
  apply digitsUpTo_append front (List.length_take_le ..)
  by_cases long : most ≤ run.length
  · left
    rw [List.length_take, Nat.min_eq_left long]
  · right
    rw [List.drop_eq_nil_of_le (by omega)]
    exact ends

/-- A number takes a run up to its width. -/
theorem number?_run (isRun : IsRun run) (ends : Ends rest) {most : Nat} (positive : 0 < most) :
    number? most (run ++ rest) =
      some (Numeral.value (run.take most), run.drop most ++ rest) := by
  have some_taken : run.take most ≠ [] := by
    rw [Ne, List.take_eq_nil_iff, not_or]
    exact ⟨by omega, isRun.filled⟩
  rw [number?, digitsUpTo_run isRun ends]
  simp [some_taken]

/-- So does a year, which has no sign in front of a digit. -/
theorem year?_run (isRun : IsRun run) (ends : Ends rest) :
    year? (run ++ rest) = some ((Numeral.value (run.take 4) : Int), run.drop 4 ++ rest) := by
  rw [year?, trimStart_digits isRun.filled isRun.numeric]
  split
  · next tail signed =>
    have minus := isDigit_of_append_eq_cons isRun.filled isRun.numeric signed
    contradiction
  · next tail signed =>
    have plus := isDigit_of_append_eq_cons isRun.filled isRun.numeric signed
    contradiction
  · rw [number?_run isRun ends (by decide)]
    rfl

/-- A part that is a number takes a run up to its width. -/
theorem Part.read?_run (number : 0 < part.width) (isRun : IsRun run) (ends : Ends rest) :
    part.read? fields (run ++ rest) =
      some (part.put (Numeral.value (run.take part.width)) fields,
        run.drop part.width ++ rest) := by
  have field : field? (run ++ rest) =
      some (Numeral.value (run.take 2), run.drop 2 ++ rest) := by
    rw [field?, trimStart_digits isRun.filled isRun.numeric]
    exact number?_run isRun ends (by decide)
  cases part with
  | year =>
    rw [Part.read?, year?_run isRun ends]
    rfl
  | month | day | hour | minute | second =>
    rw [Part.read?, field]
    rfl
  | fraction | gap | mark => contradiction

/-- The digits that a part leaves of a run begin with a digit. -/
theorem exists_drop_eq_cons (isRun : IsRun run) {width : Nat} (long : width < run.length) :
    ∃ e others, e.isDigit = true ∧ run.drop width = e :: others := by
  cases left : run.drop width with
  | nil =>
    rw [List.drop_eq_nil_iff] at left
    omega
  | cons e others =>
    have listed : e ∈ run.drop width := by
      rw [left]
      exact List.mem_cons_self
    exact ⟨e, others, isRun.numeric e (List.mem_of_mem_drop listed), rfl⟩

/-- A run in front of a character fits a number in front of a mark when it is within the width and
the character is the mark. -/
theorem readParts?_run_mark (number : 0 < part.width) (isRun : IsRun run)
    (solid : c.isDigit = false) (ended : d.isDigit = false) :
    readParts? (part :: .mark c :: parts) fields (run ++ d :: rest) =
      if run.length ≤ part.width ∧ d = c then
        readParts? parts (part.put (Numeral.value run) fields) rest
      else none := by
  rw [readParts?, part.read?_run number isRun (ends_cons ended rest)]
  simp only [bind, Option.bind_some, readParts?, Part.read?]
  by_cases fits : run.length ≤ part.width
  · rw [List.take_of_length_le fits, List.drop_eq_nil_of_le fits, List.nil_append, mark?]
    by_cases same : d = c
    · simp [fits, same]
    · simp [same]
  · -- The digits that are left begin with no mark.
    obtain ⟨e, others, digit, left⟩ := exists_drop_eq_cons isRun (Nat.lt_of_not_le fits)
    have different : e ≠ c := by
      rintro rfl
      rw [digit] at solid
      contradiction
    rw [left, List.cons_append, mark?, if_neg different, if_neg (fun both => fits both.1)]
    rfl

/-- A run at the end fits a number at the end when it is within the width. -/
theorem readParts?_run_end (number : 0 < part.width) (isRun : IsRun run) :
    readParts? [part] fields run =
      if run.length ≤ part.width then some (part.put (Numeral.value run) fields) else none := by
  have taken := @Part.read?_run run [] part fields number isRun (fun _ first => nomatch first)
  rw [List.append_nil, List.append_nil] at taken
  rw [readParts?, taken]
  simp only [bind, Option.bind_some]
  by_cases fits : run.length ≤ part.width
  · rw [List.take_of_length_le fits, List.drop_eq_nil_of_le fits, if_pos fits]
    rfl
  · obtain ⟨e, others, -, left⟩ := exists_drop_eq_cons isRun (Nat.lt_of_not_le fits)
    rw [left, if_neg fits]
    rfl

/-- A gap takes the blank in front of a run. -/
theorem readParts?_gap_blank (isRun : IsRun run) :
    readParts? (.gap :: parts) fields (' ' :: (run ++ rest)) =
      readParts? parts fields (run ++ rest) := by
  have skipped : Text.trimStart (' ' :: (run ++ rest)) = run ++ rest := by
    have blank : Text.isBlank ' ' = true := by decide
    rw [Text.trimStart, List.dropWhile_cons_of_pos blank]
    exact trimStart_digits isRun.filled isRun.numeric rest
  rw [readParts?, Part.read?, skipped]
  rfl

/-- A run in front of a blank fits a number in front of a gap, with another number and its mark to
follow, when it is within the width. -/
theorem readParts?_run_gap (number : 0 < part.width) (follows : 0 < next.width)
    (isRun : IsRun run) (laterRun : IsRun later) (solid : c.isDigit = false) (marked : ' ' ≠ c) :
    readParts? (part :: .gap :: next :: .mark c :: parts) fields (run ++ ' ' :: (later ++ rest)) =
      if run.length ≤ part.width then
        readParts? (next :: .mark c :: parts) (part.put (Numeral.value run) fields) (later ++ rest)
      else none := by
  have blank : ' '.isDigit = false := by decide
  rw [readParts?, part.read?_run number isRun (ends_cons blank _)]
  simp only [bind, Option.bind_some]
  by_cases fits : run.length ≤ part.width
  · rw [List.take_of_length_le fits, List.drop_eq_nil_of_le fits, List.nil_append,
      readParts?_gap_blank laterRun, if_pos fits]
  · -- The gap is empty in front of the digits that are left, and the next number takes them.
    obtain ⟨e, others, digit, left⟩ := exists_drop_eq_cons isRun (Nat.lt_of_not_le fits)
    have leftRun : IsRun (run.drop part.width) :=
      ⟨by simp [left], fun x listed => isRun.numeric x (List.mem_of_mem_drop listed)⟩
    have kept : Text.trimStart (run.drop part.width ++ ' ' :: (later ++ rest)) =
        run.drop part.width ++ ' ' :: (later ++ rest) :=
      trimStart_digits leftRun.filled leftRun.numeric _
    rw [readParts?, Part.read?, kept, if_neg fits]
    simp only [bind, Option.bind_some]
    rw [readParts?_run_mark follows leftRun solid blank, if_neg fun both => marked both.2]

end Reading

end SalarySurvey.Layout
