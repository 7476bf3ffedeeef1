import SalarySurvey.Proofs.Order
import Mathlib.Data.List.Nodup

/-!
# Sorted answers

Rows carry their positions, and a stable sort by the first components of rising pairs is the sort
that breaks ties by the second ones. That order is antisymmetric on rising pairs, so sorted lists
of the same pairs are equal; sorting therefore commutes with filtering, and the answer to a plan
is the one list of positions that is complete, free of repetition and in order.
-/
namespace SalarySurvey.Query

open Std
open List (zipIdxLE)

section Stability

variable {α : Type} {le : α → α → Bool} {pairs : List (α × Nat)}

/-- The positions of a list of pairs rise. -/
abbrev Rising (pairs : List (α × Nat)) : Prop :=
  pairs.Pairwise fun a b => a.2 < b.2

/-- Numbering gives rising positions. -/
theorem rising_zipIdx (values : List α) : Rising values.zipIdx := by
  rw [Rising, List.pairwise_iff_getElem]
  intro i j first second ordered
  simpa using ordered

/-- Positions of rising pairs are ordered as their places in the list are. -/
theorem rising_le_iff (rising : Rising pairs) {i j : Nat} (first : i < pairs.length)
    (second : j < pairs.length) : pairs[i].2 ≤ pairs[j].2 ↔ i ≤ j := by
  have later := List.pairwise_iff_getElem.mp rising
  constructor
  · intro ordered
    by_contra crossed
    have strict := later j i second first (by omega)
    omega
  · intro ordered
    rcases Nat.eq_or_lt_of_le ordered with same | before
    · subst same
      exact Nat.le_refl _
    · exact Nat.le_of_lt (later i j first second before)

/-- A pair of a rising list is known by its position. -/
theorem rising_unique (rising : Rising pairs) {a b : α × Nat} (left : a ∈ pairs)
    (right : b ∈ pairs) (same : a.2 = b.2) : a = b := by
  obtain ⟨i, first, rfl⟩ := List.getElem_of_mem left
  obtain ⟨j, second, rfl⟩ := List.getElem_of_mem right
  have forth := (rising_le_iff rising first second).mp (Nat.le_of_eq same)
  have back := (rising_le_iff rising second first).mp (Nat.le_of_eq same.symm)
  obtain rfl := Nat.le_antisymm forth back
  rfl

/-- A stable sort by the first components breaks ties by rising positions. -/
theorem mergeSort_rising (rising : Rising pairs) :
    (pairs.mergeSort fun a b => le a.1 b.1) = pairs.mergeSort (zipIdxLE le) := by
  have numbered : (pairs.zipIdx.mergeSort (zipIdxLE fun a b => le a.1 b.1)).map Prod.fst =
      pairs.mergeSort fun a b => le a.1 b.1 := List.mergeSort_zipIdx
  have forget : ∀ a ∈ pairs.zipIdx, ∀ b ∈ pairs.zipIdx,
      zipIdxLE (fun a b => le a.1 b.1) a b = zipIdxLE le a.1 b.1 := by
    rintro ⟨a, i⟩ left ⟨b, j⟩ right
    obtain ⟨first, rfl⟩ := List.getElem?_eq_some_iff.mp (List.mk_mem_zipIdx_iff_getElem?.mp left)
    obtain ⟨second, rfl⟩ := List.getElem?_eq_some_iff.mp (List.mk_mem_zipIdx_iff_getElem?.mp right)
    simp only [zipIdxLE, rising_le_iff rising first second]
  rw [← numbered, List.map_mergeSort forget, List.zipIdx_map_fst]

/-- Ties broken by position leave no two rising pairs equal. -/
theorem zipIdxLE_antisymm (rising : Rising pairs) {a b : α × Nat} (left : a ∈ pairs)
    (right : b ∈ pairs) (below : zipIdxLE le a b = true) (above : zipIdxLE le b a = true) :
    a = b := by
  apply rising_unique rising left right
  unfold zipIdxLE at below above
  by_cases forth : le a.1 b.1 = true
  · by_cases back : le b.1 a.1 = true
    · simp only [forth, back, ↓reduceIte, decide_eq_true_eq] at below above
      exact Nat.le_antisymm below above
    · simp [back] at above
  · simp [forth] at below

/-- Sorting rising pairs commutes with filtering them. -/
theorem filter_mergeSort (rising : Rising pairs) (trans : ∀ a b c, le a b → le b c → le a c)
    (total : ∀ a b, le a b || le b a) (keep : α × Nat → Bool) :
    (pairs.mergeSort fun a b => le a.1 b.1).filter keep =
      (pairs.filter keep).mergeSort fun a b => le a.1 b.1 := by
  have kept : Rising (pairs.filter keep) := rising.filter keep
  rw [mergeSort_rising rising, mergeSort_rising kept]
  have sorted (pairs : List (α × Nat)) :=
    List.pairwise_mergeSort (List.zipIdxLE_trans trans) (List.zipIdxLE_total total) pairs
  have permuted : ((pairs.mergeSort (zipIdxLE le)).filter keep).Perm
      ((pairs.filter keep).mergeSort (zipIdxLE le)) :=
    ((List.mergeSort_perm pairs _).filter keep).trans (List.mergeSort_perm _ _).symm
  apply List.Perm.eq_of_pairwise _ ((sorted pairs).filter keep) (sorted _) permuted
  intro a b left right
  rw [List.mem_filter, List.mem_mergeSort] at left
  rw [List.mem_mergeSort, List.mem_filter] at right
  exact zipIdxLE_antisymm rising left.1 right.1

end Stability

/-- Whether the keys of a row do not exceed those of another one. -/
def keyLE (keys : List Column) (a b : Row) : Bool :=
  (compare (rowKey keys a) (rowKey keys b)).isLE

/-- The order of keys is transitive on rows. -/
theorem keyLE_trans (keys : List Column) (a b c : Row) (first : keyLE keys a b)
    (second : keyLE keys b c) : keyLE keys a c :=
  TransOrd.isLE_trans first second

/-- The order of keys is total on rows. -/
theorem keyLE_total (keys : List Column) (a b : Row) : keyLE keys a b || keyLE keys b a := by
  unfold keyLE
  rw [OrientedOrd.eq_swap (a := rowKey keys b)]
  cases compare (rowKey keys a) (rowKey keys b) <;> rfl

section Sorted

variable {survey : Survey} {rows : List PlacedRow}

/-- A row with its position stands there in the survey. -/
theorem getElem?_of_mem_sublist (part : rows.Sublist survey.rows.zipIdx) {row : PlacedRow}
    (listed : row ∈ rows) : survey.rows[row.2]? = some row.1 :=
  List.mem_zipIdx_iff_getElem?.mp (part.subset listed)

/-- Rows of one survey are sorted by their keys. -/
theorem sortRows_eq (typed : survey.Typed) (part : rows.Sublist survey.rows.zipIdx)
    (keys : List Column) :
    sortRows keys rows = rows.mergeSort fun a b => keyLE keys a.1 b.1 := by
  have agree : ∀ a ∈ rows, ∀ b ∈ rows,
      (compareRows keys a.1 b.1).isLE = keyLE keys (id a).1 (id b).1 := by
    intro a left b right
    have first := List.mem_of_getElem? (getElem?_of_mem_sublist part left)
    have second := List.mem_of_getElem? (getElem?_of_mem_sublist part right)
    rw [id, id, keyLE, compare_rowKey typed keys first second]
  have sorted : (sortRows keys rows).map id =
      (rows.map id).mergeSort fun a b => keyLE keys a.1 b.1 := List.map_mergeSort agree
  rwa [List.map_id, List.map_id] at sorted

/-- Rows of one survey may be filtered before or after sorting. -/
theorem filter_sortRows (typed : survey.Typed) (keys : List Column) (keep : PlacedRow → Bool) :
    (sortRows keys survey.rows.zipIdx).filter keep =
      sortRows keys (survey.rows.zipIdx.filter keep) := by
  rw [sortRows_eq typed (List.Sublist.refl _), sortRows_eq typed List.filter_sublist]
  exact filter_mergeSort (rising_zipIdx _) (keyLE_trans keys) (keyLE_total keys) keep

/-- Of two sorted rows the first one is below the other, or they tie and it comes earlier in the
survey. -/
theorem pairwise_sortRows (typed : survey.Typed) (part : rows.Sublist survey.rows.zipIdx)
    (keys : List Column) :
    (sortRows keys rows).Pairwise fun a b =>
      Below keys a.1 b.1 ∨ Ties keys a.1 b.1 ∧ a.2 < b.2 := by
  have rising : Rising rows := (rising_zipIdx survey.rows).sublist part
  have distinct : rows.Pairwise fun a b => a.2 ≠ b.2 := rising.imp Nat.ne_of_lt
  rw [sortRows_eq typed part, mergeSort_rising rising]
  have sorted := List.pairwise_mergeSort (List.zipIdxLE_trans (keyLE_trans keys))
    (List.zipIdxLE_total (keyLE_total keys)) rows
  have apart := ((List.mergeSort_perm rows (zipIdxLE (keyLE keys))).symm.pairwise_iff
    Ne.symm).mp distinct
  refine (sorted.and apart).imp_of_mem ?_
  rintro a b left right ⟨ordered, different⟩
  rw [List.mem_mergeSort] at left right
  have first := List.mem_of_getElem? (getElem?_of_mem_sublist part left)
  have second := List.mem_of_getElem? (getElem?_of_mem_sublist part right)
  unfold zipIdxLE keyLE at ordered
  rw [OrientedOrd.eq_swap (a := rowKey keys b.1), compare_rowKey typed keys first second] at ordered
  cases outcome : compareRows keys a.1 b.1 with
  | lt => exact .inl (compareRows_eq_lt.mp outcome)
  | eq =>
    simp only [outcome, Ordering.isLE_eq, Ordering.swap_eq, ↓reduceIte, decide_eq_true_eq] at ordered
    exact .inr ⟨compareRows_eq_eq.mp outcome, Nat.lt_of_le_of_ne ordered different⟩
  | gt => simp [outcome] at ordered

end Sorted

/-- The positions of the rows of an answer in the survey, in the order of the answer. -/
def Answer.positions (answer : Answer) : List Nat :=
  answer.rows.map Prod.snd

/-- Whether a row meets all conditions of a plan. -/
def Plan.meets (plan : Plan) (row : PlacedRow) : Bool :=
  plan.conditions.all fun condition => condition.holds row.1

/-- Without columns to sort by, rows stay in order. -/
theorem sortRows_nil (rows : List PlacedRow) : sortRows [] rows = rows :=
  List.mergeSort_of_pairwise (List.pairwise_of_forall fun _ _ => rfl)

/-- An answer has the sorted rows that meet the conditions. -/
theorem answer_rows (plan : Plan) (survey : Survey) :
    (plan.answer survey).rows =
      (sortRows (plan.sort.getD []) survey.rows.zipIdx).filter plan.meets := by
  cases sort : plan.sort with
  | none => simp only [Plan.answer, sort, Option.getD_none, sortRows_nil]; rfl
  | some keys => simp only [Plan.answer, sort, Option.getD_some]; rfl

/-- A row goes before another in some columns when it is below it, or ties with it and comes
earlier in the survey. -/
def Precedes (survey : Survey) (keys : List Column) (i j : Nat) : Prop :=
  ∃ a b, survey.rows[i]? = some a ∧ survey.rows[j]? = some b ∧
    (Below keys a b ∨ Ties keys a b ∧ i < j)

/-- No two rows go before each other. -/
theorem Precedes.asymm {survey : Survey} (typed : survey.Typed) {keys : List Column} {i j : Nat}
    (forth : Precedes survey keys i j) : ¬Precedes survey keys j i := by
  obtain ⟨a, b, first, second, ordered⟩ := forth
  rintro ⟨c, d, third, fourth, crossed⟩
  obtain rfl : b = c := Option.some.inj (second.symm.trans third)
  obtain rfl : a = d := Option.some.inj (first.symm.trans fourth)
  have left := List.mem_of_getElem? first
  have right := List.mem_of_getElem? second
  rw [← compareRows_eq_lt, ← compareRows_eq_eq] at ordered crossed
  rw [← compare_rowKey typed keys right left, OrientedOrd.eq_swap,
    compare_rowKey typed keys left right] at crossed
  rcases ordered with below | ⟨tie, earlier⟩
  · simp [below] at crossed
  · rw [tie] at crossed
    rcases crossed with impossible | ⟨-, later⟩
    · contradiction
    · omega

/-- What makes a list of positions the result of a plan. -/
structure Plan.Selects (plan : Plan) (survey : Survey) (positions : List Nat) : Prop where
  /-- No row is repeated. -/
  nodup : positions.Nodup
  /-- The rows are those that meet all conditions. -/
  mem_iff : ∀ i, i ∈ positions ↔
    ∃ row, survey.rows[i]? = some row ∧ ∀ condition ∈ plan.conditions, condition.holds row = true
  /-- The rows are in the order of the columns, and those that tie in the order of the survey. -/
  ordered : positions.Pairwise (Precedes survey (plan.sort.getD []))

/-- A plan has one result at most. -/
theorem Plan.Selects.unique {plan : Plan} {survey : Survey} (typed : survey.Typed)
    {one other : List Nat} (left : plan.Selects survey one) (right : plan.Selects survey other) :
    one = other := by
  have permuted : one.Perm other := by
    rw [List.perm_ext_iff_of_nodup left.nodup right.nodup]
    intro i
    rw [left.mem_iff, right.mem_iff]
  apply List.Perm.eq_of_pairwise _ left.ordered right.ordered permuted
  intro i j _ _ forth back
  exact absurd back (forth.asymm typed)

/-- The answer to a plan is its result. -/
theorem selects_answer {survey : Survey} (typed : survey.Typed) (plan : Plan) :
    plan.Selects survey (plan.answer survey).positions := by
  have whole := List.Sublist.refl survey.rows.zipIdx
  have permuted := List.mergeSort_perm survey.rows.zipIdx fun a b =>
    (compareRows (plan.sort.getD []) a.1 b.1).isLE
  have listed : ∀ row, row ∈ (plan.answer survey).rows ↔
      survey.rows[row.2]? = some row.1 ∧ plan.meets row = true := by
    intro row
    rw [answer_rows, List.mem_filter, sortRows, permuted.mem_iff, List.mem_zipIdx_iff_getElem?]
  constructor
  · have numbered : (survey.rows.zipIdx.map Prod.snd).Nodup := by
      rw [List.zipIdx_map_snd]
      exact List.nodup_range'
    rw [Answer.positions, answer_rows]
    exact ((permuted.map Prod.snd).nodup_iff.mpr numbered).sublist (List.filter_sublist.map _)
  · intro i
    simp only [Answer.positions, List.mem_map, listed, Plan.meets, List.all_eq_true, Prod.exists,
      exists_eq_right]
  · rw [Answer.positions, List.pairwise_map]
    have sorted := (pairwise_sortRows typed whole (plan.sort.getD [])).filter plan.meets
    rw [← answer_rows] at sorted
    refine sorted.imp_of_mem ?_
    intro a b left right before
    exact ⟨a.1, b.1, ((listed a).mp left).1, ((listed b).mp right).1, before⟩

/-- The answer of a loaded survey to a plan has each row that meets all conditions once, in the
order of the columns and for ties in the order of the file. No other list of positions does, so
filtering first and sorting the rest stably gives the same rows. -/
theorem answer_unique {bytes : List UInt8} {survey : Survey}
    (loaded : Survey.ofBytes bytes = .ok survey) (plan : Plan) :
    plan.Selects survey (plan.answer survey).positions ∧
      (∀ positions, plan.Selects survey positions →
        positions = (plan.answer survey).positions) ∧
      (∀ row ∈ (plan.answer survey).rows, survey.rows[row.2]? = some row.1) ∧
      (plan.answer survey).rows =
        sortRows (plan.sort.getD []) (survey.rows.zipIdx.filter plan.meets) := by
  have typed := Survey.typed_of_ofBytes loaded
  have selects := selects_answer typed plan
  have filtered := filter_sortRows typed (plan.sort.getD []) plan.meets
  rw [← answer_rows] at filtered
  refine ⟨selects, fun positions other => other.unique typed selects, ?_, filtered⟩
  intro row listed
  rw [answer_rows, List.mem_filter, sortRows, List.mem_mergeSort] at listed
  exact List.mem_zipIdx_iff_getElem?.mp listed.1

/-- A plan whose rows tie in the first column of a file. -/
def samplePlan : Plan := ⟨[], some [.city, .salary], none⟩

/-- The second row of the file has the lesser salary. -/
theorem selects_samplePlan {survey : Survey} (loaded : Survey.ofBytes Survey.sampleFile = .ok survey) :
    samplePlan.Selects survey [1, 0] := by
  have cells : (survey.rows.map fun row => (row.at .city, row.at .salary)) =
      [(.missing, .integer 120000), (.missing, .integer 7)] := by
    have computed : ((Survey.ofBytes Survey.sampleFile).toOption.map fun survey =>
        survey.rows.map fun row => (row.at .city, row.at .salary)) =
        some [(.missing, .integer 120000), (.missing, .integer 7)] := by decide +kernel
    rw [loaded] at computed
    exact Option.some.inj computed
  obtain ⟨a, rest, rows, first, others⟩ := List.map_eq_cons_iff.mp cells
  obtain ⟨b, _, rfl, second, nothing⟩ := List.map_eq_cons_iff.mp others
  obtain rfl := List.map_eq_nil_iff.mp nothing
  rw [Prod.mk.injEq] at first second
  constructor
  · decide
  · intro i
    rw [rows]
    match i with
    | 0 | 1 | i + 2 => simp [samplePlan]
  · have below : Below [.city, .salary] b a := by
      rw [below_cons, below_singleton, first.1, second.1, first.2, second.2]
      exact .inr ⟨rfl, by decide⟩
    rw [List.pairwise_pair]
    exact ⟨b, a, by rw [rows]; rfl, by rw [rows]; rfl, .inl below⟩

/-- The answer of the file to the plan has the second row in front of the first one. -/
theorem sampleFile_answer_unique :
    ∃ survey, Survey.ofBytes Survey.sampleFile = .ok survey ∧
      samplePlan.Selects survey (samplePlan.answer survey).positions ∧
      (∀ positions, samplePlan.Selects survey positions →
        positions = (samplePlan.answer survey).positions) ∧
      (samplePlan.answer survey).positions = [1, 0] := by
  obtain ⟨survey, loaded⟩ := Survey.sampleFile_loads
  have unique := answer_unique loaded samplePlan
  exact ⟨survey, loaded, unique.1, unique.2.1, (unique.2.1 _ (selects_samplePlan loaded)).symm⟩

end SalarySurvey.Query
