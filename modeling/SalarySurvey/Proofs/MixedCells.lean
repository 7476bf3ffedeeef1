import SalarySurvey.Proofs.Order
import SalarySurvey.Proofs.WholeNumbers

/-!
# The order of mixed cells

The cells of a column are of one kind, but the order of sorting is defined for all cells. It has one
gap. Two integers compare exactly, and either of them is rounded when it meets a real number; so a
real number may equal two different integers, which do not equal each other. All other cells follow
a key in which numbers are rounded. Rounding merges numbers and never turns them round, so the order
is transitive wherever the exact comparison of two integers is not asked about two that it merged.
-/
namespace SalarySurvey.Cell

open Std

/-- The record by which cells are ordered when no two integers meet. -/
def roundedKey : Cell → Cell.Key
  | .integer i => ⟨0, [(Binary64.ofInt i.toInt).totalKey], ""⟩
  | .real x => ⟨0, [x.totalKey], ""⟩
  | .timestamp t => ⟨1, t.numbers, ""⟩
  | .text s => ⟨2, [], s⟩
  | .missing => ⟨3, [], ""⟩

/-- Two integers, the greater one first, and a real number to which both are rounded. -/
inductive Gap : Cell → Cell → Cell → Prop where
  /-- The real number stands between the two. -/
  | between {i j : Int64} {x : Binary64} (less : j.toInt < i.toInt)
    (upper : Binary64.ofInt i.toInt = x) (lower : Binary64.ofInt j.toInt = x) :
    Gap (.integer i) (.real x) (.integer j)

end Cell

namespace Binary64

/-- Numbers are known by their ranks in the total order. -/
theorem totalKey_injective {x y : Binary64} (same : x.totalKey = y.totalKey) : x = y := by
  obtain ⟨left, m, _⟩ := x
  obtain ⟨right, n, _⟩ := y
  unfold totalKey at same
  cases left <;> cases right <;> simp only [Bool.false_eq_true, ↓reduceIte] at same <;>
    simp only [mk.injEq, reduceCtorEq, true_and, false_and] <;> omega

/-- Rounding integers keeps their order in the total order. -/
theorem totalKey_ofInt_mono {i j : Int} (ordered : i ≤ j) :
    (ofInt i).totalKey ≤ (ofInt j).totalKey := by
  have values := valueKey_ofInt_mono ordered
  unfold valueKey at values
  unfold totalKey
  simp only [ofInt, ofUnits, decide_eq_true_eq] at values ⊢
  by_cases negative : i < 0
  · by_cases below : j < 0
    · rw [if_pos negative, if_pos below] at values ⊢
      omega
    · rw [if_pos negative, if_neg below] at values ⊢
      omega
  · rw [if_neg negative, if_neg (show ¬j < 0 by omega)] at values ⊢
    omega

end Binary64

namespace Cell

open Std

/-- Keys of one place that differ in one number at most compare as these numbers. -/
theorem Key.compare_number (place : Nat) (m n : Int) (text : String) :
    Ord.compare (⟨place, [m], text⟩ : Key) ⟨place, [n], text⟩ = Ord.compare m n := by
  rw [Key.compare_parts]
  simp [compare_self]

/-- Unless both are integers, two cells compare as their rounded keys. -/
theorem compare_roundedKey {a b : Cell} (mixed : ∀ i j, ¬(a = .integer i ∧ b = .integer j)) :
    Ord.compare a.roundedKey b.roundedKey = a.compare b := by
  cases a with
  | missing => cases b <;> rfl
  | integer i =>
    cases b with
    | integer j => exact absurd ⟨rfl, rfl⟩ (mixed i j)
    | real y => exact Key.compare_number ..
    | missing | text | timestamp => rfl
  | real x =>
    cases b with
    | integer | real => exact Key.compare_number ..
    | missing | text | timestamp => rfl
  | text s =>
    cases b with
    | text t => rfl
    | missing | integer | real | timestamp => rfl
  | timestamp t =>
    cases b with
    | timestamp u =>
      change (Ord.compare t.numbers u.numbers).then .eq = t.compare u
      rw [Timestamp.compare_numbers, Ordering.then_eq]
    | missing | integer | real | text => rfl

/-- A cell that is not sorted behind another one has no greater rounded key. -/
theorem isLE_roundedKey {a b : Cell} (ordered : (a.compare b).isLE = true) :
    (Ord.compare a.roundedKey b.roundedKey).isLE = true := by
  by_cases integers : ∃ i j, a = .integer i ∧ b = .integer j
  · obtain ⟨i, j, rfl, rfl⟩ := integers
    have exact : i.toInt ≤ j.toInt := Int.isLE_compare.mp ordered
    rw [roundedKey, roundedKey, Key.compare_number, Int.isLE_compare]
    exact Binary64.totalKey_ofInt_mono exact
  · rwa [compare_roundedKey fun i j both => integers ⟨i, j, both⟩]

/-- Integers that a real number puts in the other order than their own make a gap with it. -/
theorem gap_of_less {i j : Int64} {x : Binary64} (less : j.toInt < i.toInt)
    (below : ((integer i).compare (.real x)).isLE = true)
    (above : ((real x).compare (.integer j)).isLE = true) :
    Gap (.integer i) (.real x) (.integer j) := by
  have first : (Binary64.ofInt i.toInt).totalKey ≤ x.totalKey := Int.isLE_compare.mp below
  have second : x.totalKey ≤ (Binary64.ofInt j.toInt).totalKey := Int.isLE_compare.mp above
  have rounded : (Binary64.ofInt j.toInt).totalKey ≤ (Binary64.ofInt i.toInt).totalKey :=
    Binary64.totalKey_ofInt_mono (Int.le_of_lt less)
  have upper : Binary64.ofInt i.toInt = x := Binary64.totalKey_injective (by omega)
  have lower : Binary64.ofInt j.toInt = x := Binary64.totalKey_injective (by omega)
  exact .between less upper lower

/-- The order of sorting is transitive but for the gap. -/
theorem isLE_trans_iff {a b c : Cell} (first : (a.compare b).isLE = true)
    (second : (b.compare c).isLE = true) : (a.compare c).isLE = true ↔ ¬Gap a b c := by
  have keys : (Ord.compare a.roundedKey c.roundedKey).isLE = true :=
    TransCmp.isLE_trans (isLE_roundedKey first) (isLE_roundedKey second)
  by_cases integers : ∃ i j, a = .integer i ∧ c = .integer j
  · obtain ⟨i, j, rfl, rfl⟩ := integers
    have exact : ((integer i).compare (.integer j)).isLE = true ↔ i.toInt ≤ j.toInt :=
      Int.isLE_compare
    rw [exact]
    constructor
    · rintro ordered ⟨less, -, -⟩
      omega
    · intro closed
      cases b with
      | integer k =>
        have low : i.toInt ≤ k.toInt := Int.isLE_compare.mp first
        have high : k.toInt ≤ j.toInt := Int.isLE_compare.mp second
        omega
      | real x =>
        by_contra reversed
        exact closed (gap_of_less (by omega) first second)
      | missing | text | timestamp => contradiction
  · rw [← compare_roundedKey fun i j both => integers ⟨i, j, both⟩, keys]
    simp only [true_iff]
    rintro ⟨-, -, -⟩
    exact integers ⟨_, _, rfl, rfl⟩

/-- One of the integers of a gap has more than 53 bits. -/
theorem Gap.large {a b c : Cell} (gap : Gap a b c) :
    ∃ i j : Int64, a = .integer i ∧ c = .integer j ∧
      (Nat.pow 2 53 < i.toInt ∨ j.toInt < -Nat.pow 2 53) := by
  obtain ⟨less, upper, lower⟩ := gap
  refine ⟨_, _, rfl, rfl, ?_⟩
  have limit : Nat.pow 2 53 = 2 * Binary64.fractionCount := rfl
  by_contra small
  rw [limit] at small
  have apart := Binary64.valueKey_ofInt_lt less (by omega) (by omega)
  rw [upper, lower] at apart
  exact Int.lt_irrefl _ apart

/-- The order of sorting compares every cell as equal to itself, and it compares two cells in one
way from both sides. -/
theorem compare_self_and_swap (a b : Cell) :
    a.compare a = .eq ∧ b.compare a = (a.compare b).swap := by
  constructor
  · by_cases number : ∃ i, a = .integer i
    · obtain ⟨i, rfl⟩ := number
      exact ReflOrd.compare_self
    · rw [← compare_roundedKey fun i j both => number ⟨i, both.1⟩, ReflOrd.compare_self]
  · by_cases integers : ∃ i j, a = .integer i ∧ b = .integer j
    · obtain ⟨i, j, rfl, rfl⟩ := integers
      exact OrientedOrd.eq_swap
    · rw [← compare_roundedKey fun i j both => integers ⟨i, j, both⟩,
        ← compare_roundedKey fun j i both => integers ⟨i, j, both.2, both.1⟩]
      exact OrientedOrd.eq_swap

/-- The real number of a gap equals both of its integers. -/
theorem Gap.isLE {a b c : Cell} (gap : Gap a b c) :
    (a.compare b).isLE = true ∧ (b.compare c).isLE = true := by
  obtain ⟨-, upper, lower⟩ := gap
  constructor
  · exact Int.isLE_compare.mpr (Int.le_of_eq (congrArg Binary64.totalKey upper))
  · exact Int.isLE_compare.mpr (Int.le_of_eq (congrArg Binary64.totalKey lower.symm))

/-- The order of sorting compares every cell as equal to itself, and it compares two cells in one
way from both sides. It fails to be transitive at the gaps and nowhere else, and one of the integers
of a gap has more than 53 bits. -/
theorem compare_laws (a b c : Cell) :
    a.compare a = .eq ∧ b.compare a = (a.compare b).swap ∧
      ((a.compare b).isLE = true ∧ (b.compare c).isLE = true ∧ ¬(a.compare c).isLE = true ↔
        Gap a b c) ∧
      (Gap a b c → ∃ i j : Int64, a = .integer i ∧ c = .integer j ∧
        (Nat.pow 2 53 < i.toInt ∨ j.toInt < -Nat.pow 2 53)) := by
  obtain ⟨itself, swapped⟩ := compare_self_and_swap a b
  refine ⟨itself, swapped, ⟨?_, ?_⟩, Gap.large⟩
  · rintro ⟨first, second, fails⟩
    by_contra closed
    exact fails ((isLE_trans_iff first second).mpr closed)
  · intro gap
    obtain ⟨first, second⟩ := gap.isLE
    exact ⟨first, second, fun holds => (isLE_trans_iff first second).mp holds gap⟩

/-- The order of sorting is not transitive. The first whole number that is rounded is sorted behind
the one that it is rounded to, while the real number equals both. -/
theorem not_isLE_trans : ¬∀ a b c : Cell, (a.compare b).isLE = true → (b.compare c).isLE = true →
    (a.compare c).isLE = true := by
  intro transitive
  have reversed := transitive (.integer 9007199254740993) (.real (.ofNat 9007199254740992))
    (.integer 9007199254740992) (by decide +kernel) (by decide +kernel)
  exact absurd reversed (by decide +kernel)

end Cell

end SalarySurvey
