import SalarySurvey.Proofs.Loading
import SalarySurvey.Query.Answer
import Mathlib.Data.List.Basic

/-!
# The order of cells and rows

Over all cells the order of sorting is not transitive: integers compare exactly with each other
but are rounded when they meet a real number. A column of a loaded survey has cells of one kind,
and there the order is that of a key, a lexicographic record of numbers and a text. A row is
ordered by the keys of its cells in the columns of a sort, so rows of one survey are ordered by a
total preorder for any list of columns.
-/
namespace SalarySurvey

open Std

/-- The record by which the cells of one kind are ordered. -/
structure Cell.Key where
  /-- A number for the kind, the greatest one for a missing value. -/
  place : Nat
  /-- The numbers of a cell, the most significant first. -/
  numbers : List Int
  /-- The text of a cell. -/
  text : String

namespace Cell.Key

/-- Keys are ordered lexicographically. -/
instance : Ord Cell.Key where
  compare := compareLex (compareOn place) (compareLex (compareOn numbers) (compareOn text))

/-- The order of keys is total and transitive. -/
instance : TransOrd Cell.Key :=
  inferInstanceAs <|
    TransCmp (compareLex (compareOn place) (compareLex (compareOn numbers) (compareOn text)))

end Cell.Key

/-- The parts of a timestamp, the most significant first. -/
def Timestamp.numbers (t : Timestamp) : List Int :=
  [t.date.year, t.date.month, t.date.day, t.time.hour, t.time.minute, t.time.second, t.time.nano]

/-- The order of natural numbers is that of integers. -/
theorem compare_natCast (m n : Nat) : compare (m : Int) (n : Int) = compare m n := by
  rw [Int.compare_eq_ite_lt, Nat.compare_eq_ite_lt]
  simp only [Int.ofNat_lt]

/-- The order in time is the lexicographic order of the parts. -/
theorem Timestamp.compare_numbers (t u : Timestamp) :
    Ord.compare t.numbers u.numbers = t.compare u := by
  simp only [Timestamp.numbers, Timestamp.compare, Date.compare, TimeOfDay.compare,
    List.compare_cons_cons, List.compare_nil_nil, compare_natCast, Ordering.then_assoc,
    Ordering.then_eq]

/-- The key of a cell. -/
def Cell.key : Cell → Cell.Key
  | .integer i => ⟨0, [i.toInt], ""⟩
  | .real x => ⟨1, [x.totalKey], ""⟩
  | .timestamp t => ⟨2, t.numbers, ""⟩
  | .text s => ⟨3, [], s⟩
  | .missing => ⟨4, [], ""⟩

/-- Keys compare by their three parts in order. -/
theorem Cell.Key.compare_parts (a b : Cell.Key) :
    Ord.compare a b = (Ord.compare a.place b.place).then
      ((Ord.compare a.numbers b.numbers).then (Ord.compare a.text b.text)) := rfl

namespace Kind

/-- The place of a kind among the keys of its cells. -/
def place : Kind → Nat
  | integers => 0
  | reals => 1
  | timestamps => 2
  | texts => 3

/-- The key of a cell with a value has the place of the kind of the cell. -/
theorem place_key {kind : Kind} {cell : Cell} (fits : kind.Fits cell)
    (present : cell ≠ .missing) : cell.key.place = kind.place := by
  cases kind <;> cases cell <;> simp_all [Fits, Cell.key, place]

/-- Cells of one kind are sorted by their keys, missing values last. -/
theorem compare_key {kind : Kind} {a b : Cell} (left : kind.Fits a) (right : kind.Fits b) :
    compare a.key b.key = a.compare b := by
  by_cases absent : a = .missing
  · subst absent
    cases b <;> rfl
  · by_cases missing : b = .missing
    · subst missing
      cases a <;> rfl
    · have places : a.key.place = b.key.place := by
        rw [place_key left absent, place_key right missing]
      rw [Cell.Key.compare_parts, places, ReflOrd.compare_self]
      cases a <;> cases b <;>
        simp_all [Cell.key, Cell.compare, Binary64.totalCompare, Timestamp.compare_numbers]

end Kind

namespace Query

/-- The cells of two rows tie in each of some columns. -/
def Ties (keys : List Column) (a b : Row) : Prop :=
  ∀ key ∈ keys, (a.at key).compare (b.at key) = .eq

/-- A row is below another one in some columns, the most significant first: the first of them in which
the cells of the two do not tie has the lesser cell in the row. -/
def Below (keys : List Column) (a b : Row) : Prop :=
  ∃ front key behind, keys = front ++ key :: behind ∧ Ties front a b ∧
    (a.at key).compare (b.at key) = .lt

section Comparison

variable {keys : List Column} {a b : Row}

theorem compareRows_cons (key : Column) : compareRows (key :: keys) a b =
    ((a.at key).compare (b.at key)).then (compareRows keys a b) := rfl

theorem ties_cons {key : Column} :
    Ties (key :: keys) a b ↔ (a.at key).compare (b.at key) = .eq ∧ Ties keys a b :=
  List.forall_mem_cons

/-- Rows compare as equal exactly when they tie in all columns. -/
theorem compareRows_eq_eq : compareRows keys a b = .eq ↔ Ties keys a b := by
  induction keys with
  | nil => simp [compareRows, Ties]
  | cons key keys ih =>
    rw [compareRows_cons, Ordering.then_eq_eq, ih, ties_cons]

/-- One more column in front decides, or it ties and the others do. -/
theorem below_cons {key : Column} : Below (key :: keys) a b ↔
    (a.at key).compare (b.at key) = .lt ∨
      (a.at key).compare (b.at key) = .eq ∧ Below keys a b := by
  constructor
  · rintro ⟨front, decisive, behind, split, ties, less⟩
    cases front with
    | nil =>
      obtain ⟨rfl, rfl⟩ := List.cons.inj split
      exact .inl less
    | cons tied front =>
      obtain ⟨rfl, rfl⟩ := List.cons.inj split
      rw [ties_cons] at ties
      exact .inr ⟨ties.1, front, decisive, behind, rfl, ties.2, less⟩
  · rintro (less | ⟨tie, front, decisive, behind, rfl, ties, less⟩)
    · exact ⟨[], key, keys, rfl, fun _ listed => absurd listed List.not_mem_nil, less⟩
    · exact ⟨key :: front, decisive, behind, rfl, ties_cons.mpr ⟨tie, ties⟩, less⟩

/-- Rows compare as less exactly when the first one is below the other. -/
theorem compareRows_eq_lt : compareRows keys a b = .lt ↔ Below keys a b := by
  induction keys with
  | nil => simp [compareRows, Below]
  | cons key keys ih =>
    rw [compareRows_cons, Ordering.then_eq_lt, ih, below_cons]

/-- In one column rows tie as their cells do. -/
theorem ties_singleton {key : Column} : Ties [key] a b ↔ (a.at key).compare (b.at key) = .eq :=
  List.forall_mem_singleton

/-- In one column a row is below another one as its cell is. -/
theorem below_singleton {key : Column} : Below [key] a b ↔ (a.at key).compare (b.at key) = .lt := by
  rw [← compareRows_eq_lt, compareRows_cons, compareRows, List.foldr_nil, Ordering.then_eq]

end Comparison

/-- The keys of a row in some columns, the most significant first. -/
def rowKey (keys : List Column) (row : Row) : List Cell.Key :=
  keys.map fun column => (row.at column).key

/-- Rows of one survey are ordered by their keys, for any list of columns. -/
theorem compare_rowKey {survey : Survey} (typed : survey.Typed) (keys : List Column) {a b : Row}
    (left : a ∈ survey.rows) (right : b ∈ survey.rows) :
    compare (rowKey keys a) (rowKey keys b) = compareRows keys a b := by
  induction keys with
  | nil => rfl
  | cons column keys ih =>
    obtain ⟨kind, fits⟩ := typed column
    have first := Kind.compare_key (fits a left) (fits b right)
    rw [compareRows_cons, ← first, ← ih]
    exact List.compare_cons_cons

end Query

end SalarySurvey
