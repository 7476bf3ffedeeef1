import SalarySurvey.Proofs.Toml.Strings
import SalarySurvey.Toml.Reader
import Mathlib.Data.List.DropRight

/-!
# Gaps and line ends

Spaces and tabs stand between the parts of a line, a comment may end any line, and lines may have
nothing else. All of this is skipped up to the contents behind it, and a line ends at its feed
exactly where nothing but a gap and a comment is left of it.
-/
namespace SalarySurvey.Toml

/-- Spaces and tabs. -/
def IsGap (text : List Char) : Prop := ∀ c ∈ text, c = ' ' ∨ c = '\t'

instance (text : List Char) : Decidable (IsGap text) := List.decidableBAll _ text

/-- A comment, or nothing. -/
inductive Comment : List Char → Prop where
  /-- Nothing. -/
  | absent : Comment []
  /-- A text behind its mark. -/
  | text {text : List Char} (printed : ∀ c ∈ text, Printed c) : Comment ('#' :: text)

/-- What may stand behind the contents of a line. -/
inductive Remark : List Char → Prop where
  /-- A gap and perhaps a comment. -/
  | mk {gap comment : List Char} (isGap : IsGap gap) (isComment : Comment comment) :
    Remark (gap ++ comment)

/-- The rest of a line behind its contents. -/
inductive LineTail : List Char → Prop where
  /-- Up to a line feed. -/
  | feed {remark : List Char} (isRemark : Remark remark) : LineTail (remark ++ ['\n'])
  /-- Up to a carriage return and a line feed. -/
  | returnFeed {remark : List Char} (isRemark : Remark remark) : LineTail (remark ++ ['\r', '\n'])

/-- A gap that may go over lines. -/
inductive Blank : List Char → Prop where
  /-- On one line. -/
  | gap {gap : List Char} (isGap : IsGap gap) : Blank gap
  /-- The rest of a line, and more. -/
  | line {tail more : List Char} (isTail : LineTail tail) (behind : Blank more) :
    Blank (tail ++ more)

section Gaps

variable {gap comment remark tail blank rest : List Char} {fuel : Nat}

/-- A text that begins with contents of a line. -/
abbrev Content (text : List Char) : Prop :=
  ∃ c rest, text = c :: rest ∧ c ∉ [' ', '\t', '#', '\n', '\r']

/-- A gap is skipped. -/
theorem skipSpaces_gap (isGap : IsGap gap) : skipSpaces (gap ++ rest) = skipSpaces rest := by
  have spaces : ∀ c ∈ gap, isSpace c = true := by
    intro c listed
    simpa [isSpace] using isGap c listed
  exact List.dropWhile_append_of_pos spaces

/-- Nothing is skipped in front of contents. -/
theorem Content.skip (content : Content rest) :
    skipSpaces rest = rest ∧ skipComment rest = rest ∧ lineEnd? rest = none := by
  obtain ⟨c, more, rfl, other⟩ := content
  simp only [List.mem_cons, List.not_mem_nil, or_false, not_or] at other
  obtain ⟨noSpace, noTab, noMark, noFeed, noReturn⟩ := other
  have solid : isSpace c = false := by simp [isSpace, noSpace, noTab]
  refine ⟨List.dropWhile_cons_of_neg (by simp [solid]), ?_, ?_⟩
  · unfold skipComment
    split
    · next same => exact absurd (List.cons.inj same).1 noMark
    · rfl
  · unfold lineEnd?
    split
    · next same => exact absurd (List.cons.inj same).1 noFeed
    · next same => exact absurd (List.cons.inj same).1 noReturn
    · rfl

/-- A gap is skipped up to the contents behind it. -/
theorem skipSpaces_gap_content (isGap : IsGap gap) (content : Content rest) :
    skipSpaces (gap ++ rest) = rest := by
  rw [skipSpaces_gap isGap, content.skip.1]

/-- A comment is skipped up to the end of its line. -/
theorem skipComment_comment (isComment : Comment comment)
    (stops : ∀ c ∈ rest.head?, isTextChar c = false) : skipComment (comment ++ rest) = rest := by
  cases isComment with
  | absent =>
    rw [List.nil_append]
    unfold skipComment
    split
    · next behind =>
      have other := stops '#' rfl
      contradiction
    · rfl
  | text printed =>
    have inside := fun c listed => isTextChar_iff.mpr (printed c listed)
    rw [List.cons_append, skipComment, dropWhile_append_stop inside stops]

/-- What stands behind the contents of a line is skipped. -/
theorem Remark.skip (isRemark : Remark remark) (stops : ∀ c ∈ rest.head?, isTextChar c = false) :
    skipComment (skipSpaces (remark ++ rest)) = rest := by
  obtain ⟨isGap, isComment⟩ := isRemark
  rename_i gap comment
  have still : skipSpaces (comment ++ rest) = comment ++ rest := by
    cases isComment with
    | absent =>
      cases rest with
      | nil => rfl
      | cons c rest =>
        refine List.dropWhile_cons_of_neg ?_
        have stop : isTextChar c = false := by simpa using stops
        intro space
        simp only [isSpace, Bool.or_eq_true, beq_iff_eq] at space
        rcases space with rfl | rfl <;> contradiction
    | text _ => rfl
  rw [List.append_assoc, skipSpaces_gap isGap, still, skipComment_comment isComment stops]

/-- The rest of a line is skipped up to its end. -/
theorem LineTail.skip (isTail : LineTail tail) (rest : List Char) :
    ∃ ending, skipComment (skipSpaces (tail ++ rest)) = ending ∧ ending ≠ [] ∧
      lineEnd? ending = some rest := by
  cases isTail with
  | feed isRemark =>
    refine ⟨'\n' :: rest, ?_, List.cons_ne_nil _ _, rfl⟩
    rw [List.append_assoc]
    refine isRemark.skip fun c first => ?_
    obtain rfl : '\n' = c := by simpa using first
    rfl
  | returnFeed isRemark =>
    refine ⟨'\r' :: '\n' :: rest, ?_, List.cons_ne_nil _ _, rfl⟩
    rw [List.append_assoc]
    refine isRemark.skip fun c first => ?_
    obtain rfl : '\r' = c := by simpa using first
    rfl

theorem LineTail.length_pos (isTail : LineTail tail) : 0 < tail.length := by
  cases isTail <;> simp

/-- A line ends where its rest does. -/
theorem LineTail.endLine?_eq (isTail : LineTail tail) : endLine? (tail ++ rest) = some rest := by
  obtain ⟨ending, skipped, filled, ends⟩ := isTail.skip rest
  obtain ⟨c, more, rfl⟩ := List.exists_cons_of_ne_nil filled
  rw [endLine?, skipped]
  exact ends

/-- The last line ends with the text. -/
theorem Remark.endLine?_eq (isRemark : Remark remark) : endLine? remark = some [] := by
  have skipped : skipComment (skipSpaces (remark ++ [])) = [] :=
    isRemark.skip fun _ first => nomatch first
  rw [List.append_nil] at skipped
  rw [endLine?, skipped]

/-- A line with contents does not end in front of them. -/
theorem Content.endLine?_eq (content : Content rest) : endLine? rest = none := by
  obtain ⟨spaces, mark, ends⟩ := content.skip
  obtain ⟨c, more, rfl, -⟩ := content
  rw [endLine?, spaces, mark]
  exact ends

/-- A line ends where it does without the spaces in front. -/
theorem endLine?_skipSpaces (text : List Char) : endLine? (skipSpaces text) = endLine? text := by
  have twice : skipSpaces (skipSpaces text) = skipSpaces text := List.dropWhile_idempotent isSpace text
  rw [endLine?, endLine?, twice]

/-- Blanks are skipped up to the contents behind them. -/
theorem Blank.skipBlank_eq (isBlank : Blank blank) (content : Content rest)
    (enough : blank.length < fuel) : skipBlank fuel (blank ++ rest) = rest := by
  induction isBlank generalizing fuel with
  | gap isGap =>
    cases fuel with
    | zero => contradiction
    | succ fuel =>
      obtain ⟨spaces, mark, ends⟩ := content.skip
      rw [skipBlank, skipSpaces_gap isGap, spaces, mark, ends]
  | line isTail _ ih =>
    cases fuel with
    | zero => contradiction
    | succ fuel =>
      have filled := isTail.length_pos
      rw [List.length_append] at enough
      obtain ⟨ending, skipped, -, ends⟩ := isTail.skip _
      rw [List.append_assoc, skipBlank, skipped, ends]
      exact ih (by omega)

end Gaps

section Closing

variable {gap remark tail blank rest : List Char}

/-- What may follow a value: a space, a comment, a line end, or a mark of a list. -/
abbrev Closes (rest : List Char) : Prop :=
  ∀ c ∈ rest.head?, c ∈ [' ', '\t', '#', '\n', '\r', ',', ']']

theorem closes_cons {c : Char} (listed : c ∈ [' ', '\t', '#', '\n', '\r', ',', ']'])
    (rest : List Char) : Closes (c :: rest) := by
  intro d first
  rwa [← Option.some.inj first]

theorem IsGap.closes (isGap : IsGap gap) (closes : Closes rest) : Closes (gap ++ rest) := by
  cases gap with
  | nil => exact closes
  | cons c gap =>
    apply closes_cons
    rcases isGap c List.mem_cons_self with rfl | rfl <;> decide

theorem Remark.closes (isRemark : Remark remark) (closes : Closes rest) :
    Closes (remark ++ rest) := by
  obtain ⟨isGap, isComment⟩ := isRemark
  rw [List.append_assoc]
  apply isGap.closes
  cases isComment with
  | absent => exact closes
  | text _ => exact closes_cons (by decide) _

theorem Remark.closes_self (isRemark : Remark remark) : Closes remark := by
  have behind : Closes (remark ++ []) := isRemark.closes fun _ first => nomatch first
  rwa [List.append_nil] at behind

theorem LineTail.closes (isTail : LineTail tail) (rest : List Char) : Closes (tail ++ rest) := by
  cases isTail with
  | feed isRemark =>
    rw [List.append_assoc]
    exact isRemark.closes (closes_cons (by decide) _)
  | returnFeed isRemark =>
    rw [List.append_assoc]
    exact isRemark.closes (closes_cons (by decide) _)

theorem Blank.closes (isBlank : Blank blank) (closes : Closes rest) : Closes (blank ++ rest) := by
  cases isBlank with
  | gap isGap => exact isGap.closes closes
  | line isTail _ =>
    rw [List.append_assoc]
    exact isTail.closes _

end Closing

end SalarySurvey.Toml
