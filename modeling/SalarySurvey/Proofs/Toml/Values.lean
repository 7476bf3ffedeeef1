import SalarySurvey.Proofs.Toml.Gaps
import Mathlib.Data.Bool.AllAny

/-!
# Written values

A value is a string, an integer or a list of strings. The items of a list stand between commas and
may spread over lines, with a comma behind the last of them or without. A value is read up to what
closes it. Only an integer of more than 64 bits cannot be read.
-/
namespace SalarySurvey.Toml

/-- The ways to write the items of a list, with the closing bracket. A comma may stand behind the
last item. -/
inductive WritesItems : List String → List Char → Prop where
  /-- No items. -/
  | none {blank : List Char} (isBlank : Blank blank) : WritesItems [] (blank ++ [']'])
  /-- The last item. -/
  | last {blank item behind : List Char} {value : String} (isBlank : Blank blank)
    (writes : WritesString value item) (isBehind : Blank behind) :
    WritesItems [value] (blank ++ item ++ behind ++ [']'])
  /-- An item and a comma in front of others. -/
  | next {blank item behind others : List Char} {value : String} {values : List String}
    (isBlank : Blank blank) (writes : WritesString value item) (isBehind : Blank behind)
    (more : WritesItems values others) :
    WritesItems (value :: values) (blank ++ item ++ behind ++ ',' :: others)

/-- The ways to write a value. -/
inductive WritesValue : Toml → List Char → Prop where
  /-- A string. -/
  | string {value : String} {text : List Char} (writes : WritesString value text) :
    WritesValue (.string value) text
  /-- An integer. -/
  | integer {value : Int} {text : List Char} (writes : WritesInteger value text) :
    WritesValue (.integer value) text
  /-- A list of strings. -/
  | strings {values : List String} {text : List Char} (writes : WritesItems values text) :
    WritesValue (.array (values.map .string)) ('[' :: text)

section Values

variable {text rest : List Char} {value : Toml} {fuel depth : Nat}

/-- Whether the readers can read a value: its integers have 64 bits. -/
def fits : Toml → Bool
  | integer value => (inRange? value).isSome
  | _ => true

/-- A written string begins with a quote. -/
theorem WritesString.exists_cons {value : String} (writes : WritesString value text) :
    ∃ others, text = '"' :: others := by
  cases writes
  exact ⟨_, rfl⟩

/-- A written string is a value. -/
theorem WritesString.value?_eq {value : String} (writes : WritesString value text)
    (closes : Closes rest) (depth : Nat) :
    value? depth (text ++ rest) = some (.string value, rest) := by
  have ends : ∀ c ∈ rest.head?, c ≠ '"' := by
    rintro c first rfl
    simpa using closes _ first
  have read := writes.string?_eq ends
  obtain ⟨others, rfl⟩ := writes.exists_cons
  have leaf : value?.leaf? ('"' :: others ++ rest) = some (.string value, rest) := by
    rw [List.cons_append] at read ⊢
    simp [value?.leaf?, read]
  cases depth with
  | zero => exact leaf
  | succ depth => exact leaf

/-- A written integer is a value if it has 64 bits. -/
theorem WritesInteger.value?_eq {i : Int} (writes : WritesInteger i text)
    (closes : Closes rest) (depth : Nat) :
    value? depth (text ++ rest) = (inRange? i).map fun value => (value, rest) := by
  have ends : ∀ c ∈ rest.head?, isWordChar c = false := by
    have each : ∀ c ∈ [' ', '\t', '#', '\n', '\r', ',', ']'], isWordChar c = false :=
      List.all_iff_forall_prop.mp (by decide)
    exact fun c first => each c (closes c first)
  have read := writes.scalar?_eq ends
  obtain ⟨c, others, rfl, first, -⟩ := writes.shape
  have other (d : Char) (plain : d.isDigit = false ∧ d ≠ '+' ∧ d ≠ '-') : c ≠ d := by
    rintro rfl
    simp [plain] at first
  have leaf : value?.leaf? (c :: others ++ rest) = (inRange? i).map fun value => (value, rest) := by
    have noQuote : ¬(c = '"' ∨ c = apostrophe) := by
      rw [not_or]
      exact ⟨other _ (by decide), other _ (by decide)⟩
    rw [List.cons_append] at read ⊢
    simp only [value?.leaf?, if_neg noQuote, read]
  cases depth with
  | zero => exact leaf
  | succ depth =>
    unfold value?
    split
    · next same => exact absurd (List.cons.inj same).1 (other _ (by decide))
    · next same => exact absurd (List.cons.inj same).1 (other _ (by decide))
    · exact leaf

/-- An item is read with the comma or the bracket behind it. -/
theorem items?_item {blank item behind : List Char} {value : String} {mark : Char}
    (isBlank : Blank blank) (writes : WritesString value item) (isBehind : Blank behind)
    (listed : mark = ',' ∨ mark = ']')
    (enough : (blank ++ item ++ behind).length < fuel + 1) :
    items? (value? depth) (fuel + 1) (blank ++ item ++ behind ++ mark :: rest) =
      if mark = ',' then
        (items? (value? depth) fuel rest).map fun (others, rest) => (.string value :: others, rest)
      else some ([.string value], rest) := by
  have marked : mark ∉ [' ', '\t', '#', '\n', '\r'] := by rcases listed with rfl | rfl <;> decide
  have read : value? depth (item ++ (behind ++ mark :: rest)) =
      some (.string value, behind ++ mark :: rest) := by
    apply writes.value?_eq
    apply isBehind.closes
    rcases listed with rfl | rfl <;> exact closes_cons (by decide) rest
  rw [List.length_append, List.length_append] at enough
  have behindSkipped : skipBlank (fuel + 1) (behind ++ mark :: rest) = mark :: rest :=
    isBehind.skipBlank_eq ⟨_, _, rfl, marked⟩ (by omega)
  obtain ⟨others, shape⟩ := writes.exists_cons
  have frontSkipped : skipBlank (fuel + 1) (blank ++ (item ++ (behind ++ mark :: rest))) =
      item ++ (behind ++ mark :: rest) :=
    isBlank.skipBlank_eq ⟨'"', others ++ (behind ++ mark :: rest), by simp [shape], by decide⟩
      (by omega)
  have noBracket (more : List Char) : item ++ (behind ++ mark :: rest) ≠ ']' :: more := by
    rw [shape]
    exact fun same => absurd (List.cons.inj same).1 (by decide)
  rw [List.append_assoc, List.append_assoc, items?, frontSkipped]
  split
  · next more same => exact absurd same (noBracket more)
  · rw [read]
    simp only [Option.bind_eq_bind, Option.bind_some, behindSkipped]
    rcases listed with rfl | rfl
    · rw [if_pos rfl, Option.map_eq_bind]
      rfl
    · rfl

/-- The written items of a list are read up to its bracket. -/
theorem WritesItems.items?_eq {values : List String} (writes : WritesItems values text)
    (enough : text.length < fuel) :
    items? (value? depth) fuel (text ++ rest) = some (values.map .string, rest) := by
  induction writes generalizing fuel with
  | @none blank isBlank =>
    cases fuel with
    | zero => contradiction
    | succ fuel =>
      rw [List.length_append] at enough
      have skipped : skipBlank (fuel + 1) (blank ++ (']' :: rest)) = ']' :: rest :=
        isBlank.skipBlank_eq ⟨_, _, rfl, by decide⟩ (by omega)
      rw [List.append_assoc, List.singleton_append, items?, skipped]
      rfl
  | last isBlank writes isBehind =>
    cases fuel with
    | zero => contradiction
    | succ fuel =>
      rw [List.length_append] at enough
      rw [List.append_assoc _ [']'], List.singleton_append,
        items?_item isBlank writes isBehind (.inr rfl) (by omega)]
      rfl
  | next isBlank writes isBehind _ ih =>
    cases fuel with
    | zero => contradiction
    | succ fuel =>
      rw [List.length_append, List.length_cons] at enough
      rw [List.append_assoc, List.cons_append,
        items?_item isBlank writes isBehind (.inl rfl) (by omega), ih (by omega)]
      rfl

/-- A written value is read if it fits. -/
theorem WritesValue.value?_eq (writes : WritesValue value text) (closes : Closes rest)
    (depth : Nat) :
    value? (depth + 1) (text ++ rest) = if value.fits then some (value, rest) else none := by
  cases writes with
  | string writes => exact writes.value?_eq closes (depth + 1)
  | @integer i _ writes =>
    rw [writes.value?_eq closes, fits]
    unfold inRange?
    split <;> simp
  | @strings values text writes =>
    have read : items? (value? depth) ((text ++ rest).length + 1) (text ++ rest) =
        some (values.map .string, rest) :=
      writes.items?_eq (by rw [List.length_append]; omega)
    rw [List.cons_append, value?, read]
    rfl

/-- A written value begins contents. -/
theorem WritesValue.content {value : Toml} (writes : WritesValue value text) (rest : List Char) :
    Content (text ++ rest) := by
  cases writes with
  | string writes =>
    obtain ⟨others, rfl⟩ := writes.exists_cons
    exact ⟨'"', others ++ rest, rfl, by decide⟩
  | integer writes =>
    obtain ⟨c, others, rfl, first, -⟩ := writes.shape
    refine ⟨c, others ++ rest, rfl, fun listed => ?_⟩
    simp only [List.mem_cons, List.not_mem_nil, or_false] at listed
    rcases listed with rfl | rfl | rfl | rfl | rfl <;> simp at first
  | strings _ => exact ⟨'[', _, rfl, by decide⟩

/-- Every list of strings can be written. -/
theorem exists_writesItems (values : List String) : ∃ text, WritesItems values text := by
  have noBlank : Blank [] := .gap fun _ listed => nomatch listed
  induction values with
  | nil => exact ⟨_, .none noBlank⟩
  | cons value values ih =>
    obtain ⟨item, writes⟩ := exists_writesString value
    obtain ⟨others, more⟩ := ih
    exact ⟨_, .next noBlank writes noBlank more⟩

end Values

end SalarySurvey.Toml
