import SalarySurvey.Proofs.Keys
import SalarySurvey.Proofs.Rounding
import SalarySurvey.Proofs.Sorting

/-!
# Filters follow the sort

Sorting and filtering compare differently: a sort compares two cells, a filter compares a cell
with a literal, which rounds an integer and knows no order of the two zeros. Both agree all the
same. Along the rows sorted by a column the outcome of the comparison with one literal goes from
below to equal, to above, to none, and it never goes back. So the rows of each filter are a
stretch of the sorted rows, and neighbouring stretches join to the rows of the wider filters.
-/
namespace SalarySurvey

open Std

namespace Query

/-- The outcomes of a comparison with a literal. -/
def outcomes : List (Option Ordering) := [some .lt, some .eq, some .gt, none]

/-- There are no other outcomes. -/
theorem mem_outcomes (outcome : Option Ordering) : outcome ∈ outcomes := by
  rcases outcome with _ | (_ | _ | _) <;> decide

/-- The place of an outcome of a comparison along a sorted column. -/
def stage : Option Ordering → Nat
  | some .lt => 0
  | some .eq => 1
  | some .gt => 2
  | none => 3

/-- No outcome comes behind a failed comparison. -/
theorem stage_le_none (outcome : Option Ordering) : stage outcome ≤ stage none := by
  rcases outcome with _ | (_ | _ | _) <;> decide

/-- In a transitive order a greater value does not come at an earlier stage. -/
theorem stage_compare_mono {α : Type} [Ord α] [TransOrd α] {a b : α}
    (ordered : (compare a b).isLE = true) (c : α) :
    stage (some (compare a c)) ≤ stage (some (compare b c)) := by
  cases right : compare b c with
  | lt =>
    have left : compare a c = .lt := TransCmp.lt_of_isLE_of_lt ordered right
    rw [left]
  | eq =>
    have below : (compare a c).isLE = true :=
      TransCmp.isLE_trans ordered (by rw [right]; rfl)
    cases left : compare a c with
    | lt => decide
    | eq => decide
    | gt => simp [left] at below
  | gt => cases compare a c <;> decide

end Query

namespace Binary64

/-- The total order refines the order of values. -/
theorem valueKey_mono {x y : Binary64} (ordered : x.totalKey ≤ y.totalKey) :
    x.valueKey ≤ y.valueKey := by
  unfold totalKey at ordered
  unfold valueKey
  cases left : x.negative <;> cases right : y.negative <;>
    simp only [left, right, Bool.false_eq_true, ↓reduceIte] at ordered ⊢ <;> omega

/-- A number of no smaller value does not come at an earlier stage, since no NaN is involved. -/
theorem stage_compare?_mono {x y : Binary64} (left : x.isNaN = false) (right : y.isNaN = false)
    (ordered : x.valueKey ≤ y.valueKey) (z : Binary64) :
    Query.stage (x.compare? z) ≤ Query.stage (y.compare? z) := by
  unfold compare?
  rw [left, right, Bool.false_or]
  by_cases undefined : z.isNaN = true
  · rw [if_pos undefined, if_pos undefined]
  · rw [if_neg undefined, if_neg undefined]
    exact Query.stage_compare_mono (Int.isLE_compare.mpr ordered) _

/-- A finite number is no NaN. -/
theorem isNaN_of_isFinite {x : Binary64} (finite : x.isFinite = true) : x.isNaN = false := by
  unfold isFinite at finite
  unfold isNaN
  rw [decide_eq_true_eq] at finite
  exact decide_eq_false (Nat.not_lt.mpr (Nat.le_of_lt finite))

end Binary64

namespace Query

/-- Along cells of one kind in the order of sorting the stage of a literal does not go back. -/
theorem stage_mono {kind : Kind} {a b : Cell} (left : kind.Fits a) (right : kind.Fits b)
    (ordered : (a.compare b).isLE = true) (literal : Literal) :
    stage (literal.compare? a) ≤ stage (literal.compare? b) := by
  cases b with
  | missing => cases literal <;> exact stage_le_none _
  | integer j =>
    cases a with
    | integer i =>
      cases literal with
      | number x =>
        have rounded := Binary64.valueKey_ofInt_mono (Int.isLE_compare.mp ordered)
        exact Binary64.stage_compare?_mono (Binary64.isNaN_ofUnits ..)
          (Binary64.isNaN_ofUnits ..) rounded x
      | text s => exact Nat.le_refl _
    | missing => contradiction
    | real | text | timestamp => cases kind <;> contradiction
  | real y =>
    cases a with
    | real x =>
      obtain rfl : kind = .reals := by cases kind <;> first | rfl | contradiction
      cases literal with
      | number z =>
        have values := Binary64.valueKey_mono (Int.isLE_compare.mp ordered)
        exact Binary64.stage_compare?_mono (Binary64.isNaN_of_isFinite left)
          (Binary64.isNaN_of_isFinite right) values z
      | text s => exact Nat.le_refl _
    | missing => contradiction
    | integer | text | timestamp => cases kind <;> contradiction
  | text t =>
    cases a with
    | text s =>
      cases literal with
      | number x => exact Nat.le_refl _
      | text r => exact stage_compare_mono ordered r
    | missing => contradiction
    | integer | real | timestamp => cases kind <;> contradiction
  | timestamp u =>
    cases a with
    | timestamp t =>
      cases literal with
      | number x => exact Nat.le_refl _
      | text s =>
        cases named : Timestamp.read? s with
        | none => simp [Literal.compare?, named]
        | some v =>
          change (t.compare u).isLE = true at ordered
          rw [← Timestamp.compare_numbers] at ordered
          have later := stage_compare_mono ordered v.numbers
          rw [Timestamp.compare_numbers, Timestamp.compare_numbers] at later
          simpa [Literal.compare?, named] using later
    | missing => contradiction
    | integer | real | text => cases kind <;> contradiction

/-- A literal compares with all cells of a kind that have a value, or with none of them. -/
theorem Literal.comparable (literal : Literal) (kind : Kind) :
    (∀ cell, kind.Fits cell → literal.compare? cell = none) ∨
      ∀ cell, kind.Fits cell → (literal.compare? cell = none ↔ cell = .missing) := by
  cases literal with
  | number x =>
    by_cases undefined : x.isNaN = true
    · left
      intro cell _
      cases cell <;> simp [Literal.compare?, Binary64.compare?, undefined]
    · cases kind with
      | integers =>
        right
        intro cell fits
        cases cell <;> first | contradiction |
          simp [Literal.compare?, Binary64.compare?, undefined, Binary64.ofInt,
            Binary64.isNaN_ofUnits]
      | reals =>
        right
        intro cell fits
        cases cell with
        | missing => simp [Literal.compare?]
        | real y =>
          simp [Literal.compare?, Binary64.compare?, undefined, Binary64.isNaN_of_isFinite fits]
        | integer | text | timestamp => contradiction
      | texts | timestamps =>
        left
        intro cell fits
        cases cell <;> first | contradiction | rfl
  | text s =>
    cases kind with
    | integers | reals =>
      left
      intro cell fits
      cases cell <;> first | contradiction | rfl
    | texts =>
      right
      intro cell fits
      cases cell <;> first | contradiction | simp [Literal.compare?]
    | timestamps =>
      cases named : Timestamp.read? s with
      | none =>
        left
        intro cell fits
        cases cell <;> first | contradiction | simp [Literal.compare?, named]
      | some t =>
        right
        intro cell fits
        cases cell <;> first | contradiction | simp [Literal.compare?, named]

/-- Two stretches of a list sorted by stages join to the stretch of both. -/
theorem filter_append_filter {α : Type} {outcome : α → Option Ordering} {rows : List α}
    (sorted : rows.Pairwise fun a b => stage (outcome a) ≤ stage (outcome b))
    {first second both : Option Ordering → Bool}
    (apart : ∀ x ∈ outcomes, ∀ y ∈ outcomes, first x = true → second y = true → stage x < stage y)
    (either : ∀ x ∈ outcomes, both x = (first x || second x)) :
    (rows.filter fun row => first (outcome row)) ++ (rows.filter fun row => second (outcome row)) =
      rows.filter fun row => both (outcome row) := by
  have before {x y : Option Ordering} (earlier : first x = true) (later : second y = true) :
      stage x < stage y := apart x (mem_outcomes x) y (mem_outcomes y) earlier later
  induction rows with
  | nil => rfl
  | cons row rows ih =>
    obtain ⟨ahead, sorted⟩ := List.pairwise_cons.mp sorted
    have joined := ih sorted
    simp only [either _ (mem_outcomes _)] at joined ⊢
    cases front : first (outcome row) with
    | true =>
      have notSecond : second (outcome row) = false := by
        by_contra crossed
        exact Nat.lt_irrefl _ (before front (by simpa using crossed))
      simp [front, notSecond, joined]
    | false =>
      cases back : second (outcome row) with
      | true =>
        have passed : (rows.filter fun row => first (outcome row)) = [] := by
          rw [List.filter_eq_nil_iff]
          intro later listed found
          exact Nat.not_lt.mpr (ahead later listed) (before found back)
        rw [passed, List.nil_append] at joined
        simp [front, back, passed, joined]
      | false => simp [front, back, joined]

/-- The missing value is the cell without a value. -/
theorem isMissing_iff {cell : Cell} : cell.isMissing = true ↔ cell = .missing := by
  cases cell <;> simp [Cell.isMissing]

/-- The rows of the answer to a request. -/
def rowsFor (survey : Survey) (parameters : List Parameter) : Except Refusal (List PlacedRow) :=
  (answer survey parameters).map Answer.rows

section Requests

variable {survey : Survey} (column : Column)

/-- A request for a sort column answers with all rows sorted by it. -/
theorem rowsFor_sort : rowsFor survey [("sort", column.name)] =
    .ok (sortRows [column] survey.rows.zipIdx) := by
  have unconditional : Plan.meets ⟨[], some [column], none⟩ = fun _ => true := rfl
  rw [rowsFor, answer, Plan.ofParameters_sort, Except.map, Except.map, answer_rows, unconditional,
    List.filter_true, Option.getD_some]

/-- A request for a sort column and a condition on it answers with the sorted rows that meet the
condition. -/
theorem rowsFor_condition {key value : String} {operator : Operator} {literal : Literal}
    (accepted : Condition.ofParameter key value = .ok ⟨column, operator, .scalar literal⟩) :
    rowsFor survey [("sort", column.name), (key, value)] =
      .ok ((sortRows [column] survey.rows.zipIdx).filter fun row =>
        operator.holds (literal.compare? (row.1.at column))) := by
  have meets : Plan.meets ⟨[⟨column, operator, .scalar literal⟩], some [column], none⟩ =
      fun row => operator.holds (literal.compare? (row.1.at column)) := by
    funext row
    simp [Plan.meets, Condition.holds, Condition.holdsFor]
  rw [rowsFor, answer, Plan.ofParameters_sort_condition column accepted, Except.map, Except.map,
    answer_rows, meets, Option.getD_some]

/-- A sorted row is a row of the survey. -/
theorem mem_rows_of_mem_sortRows {keys : List Column} {row : PlacedRow}
    (listed : row ∈ sortRows keys survey.rows.zipIdx) : row.1 ∈ survey.rows := by
  rw [sortRows, List.mem_mergeSort] at listed
  exact List.mem_of_getElem? (List.mem_zipIdx_iff_getElem?.mp listed)

/-- Along the rows sorted by a column the stage of a literal does not go back. -/
theorem pairwise_stage (typed : survey.Typed) (literal : Literal) :
    (sortRows [column] survey.rows.zipIdx).Pairwise fun a b =>
      stage (literal.compare? (a.1.at column)) ≤ stage (literal.compare? (b.1.at column)) := by
  obtain ⟨kind, fits⟩ := typed column
  refine (pairwise_sortRows typed (List.Sublist.refl _) [column]).imp_of_mem ?_
  intro a b left right before
  apply stage_mono (fits a.1 (mem_rows_of_mem_sortRows left))
    (fits b.1 (mem_rows_of_mem_sortRows right))
  rcases before with below | ⟨tie, -⟩
  · rw [below_singleton.mp below]
    rfl
  · rw [ties_singleton.mp tie]
    rfl

/-- Sorting by a column keeps the rows without a value in it in order. -/
theorem filter_isMissing_sortRows (typed : survey.Typed) :
    (sortRows [column] survey.rows.zipIdx).filter (fun row => (row.1.at column).isMissing) =
      survey.rows.zipIdx.filter fun row => (row.1.at column).isMissing := by
  rw [filter_sortRows typed, sortRows]
  apply List.mergeSort_of_pairwise
  apply List.pairwise_of_forall_mem_list
  intro a left b right
  have first := isMissing_iff.mp (List.mem_filter.mp left).2
  have second := isMissing_iff.mp (List.mem_filter.mp right).2
  simp [compareRows, first, second, Cell.compare, Cell.rank]

/-- Either no row with a value compares with a literal, or the rows without an outcome are those
without a value. -/
theorem filter_isNone (typed : survey.Typed) (literal : Literal) :
    (∀ row ∈ sortRows [column] survey.rows.zipIdx, literal.compare? (row.1.at column) = none) ∨
      (sortRows [column] survey.rows.zipIdx).filter
          (fun row => (literal.compare? (row.1.at column)).isNone) =
        survey.rows.zipIdx.filter fun row => (row.1.at column).isMissing := by
  obtain ⟨kind, fits⟩ := typed column
  rcases literal.comparable kind with ignored | compared
  · exact .inl fun row listed => ignored _ (fits row.1 (mem_rows_of_mem_sortRows listed))
  · right
    rw [← filter_isMissing_sortRows column typed]
    apply List.filter_congr
    intro row listed
    rw [Bool.eq_iff_iff, Option.isNone_iff_eq_none, isMissing_iff]
    exact compared _ (fits row.1 (mem_rows_of_mem_sortRows listed))

end Requests

/-- What it means that some rows are those of a column in order, and that others are those below
a value, those equal to it and those above it. -/
structure Splits (survey : Survey) (column : Column) (value : String)
    (all lower same upper : List PlacedRow) : Prop where
  /-- The rows sorted by the column. -/
  sorted : rowsFor survey [("sort", column.name)] = .ok all
  /-- The rows below the value. -/
  below : rowsFor survey [("sort", column.name), (column.name ++ "[lt]", value)] = .ok lower
  /-- The rows that equal the value. -/
  equal : rowsFor survey [("sort", column.name), (column.name, value)] = .ok same
  /-- The rows above the value. -/
  above : rowsFor survey [("sort", column.name), (column.name ++ "[gt]", value)] = .ok upper
  /-- The three are empty, or one after the other they are the sorted rows up to those without a
  value, which stand last in the order of the file. -/
  parts : lower = [] ∧ same = [] ∧ upper = [] ∨
    all = lower ++ same ++ upper ++
      survey.rows.zipIdx.filter fun row => (row.1.at column).isMissing
  /-- The rows that are not above the value. -/
  atMost : rowsFor survey [("sort", column.name), (column.name ++ "[lte]", value)] =
    .ok (lower ++ same)
  /-- The rows that are not below the value. -/
  atLeast : rowsFor survey [("sort", column.name), (column.name ++ "[gte]", value)] =
    .ok (same ++ upper)
  /-- The rows that do not equal the value, among them those without a value. -/
  notEqual : rowsFor survey [("sort", column.name), (column.name ++ "[ne]", value)] =
    .ok (all.filter fun row => row ∉ same)

/-- In a loaded survey the rows that a filter keeps follow the sort by its column, for every
column and every value. -/
theorem splits_of_ofBytes {bytes : List UInt8} {survey : Survey}
    (loaded : Survey.ofBytes bytes = .ok survey) (column : Column) (value : String) :
    ∃ all lower same upper, Splits survey column value all lower same upper := by
  have typed := Survey.typed_of_ofBytes loaded
  have named {name suffix : String} {operator : Operator}
      (listed : (name, operator) ∈ Operator.suffixes)
      (brackets : suffix.toList = '[' :: name.toList ++ [']'])
      (single : operator.takesSet = false) :=
    @rowsFor_condition survey column _ _ _ _
      (Condition.ofParameter_append column listed brackets single value)
  have plain := @rowsFor_condition survey column _ _ _ _ (Condition.ofParameter_name column value)
  have join := @filter_append_filter _ _ _ (pairwise_stage column typed (Literal.ofText value))
  have atMost := @join (Operator.holds .below) (Operator.holds .equal) (Operator.holds .atMost)
    (by decide) (by decide)
  have atLeast := @join (Operator.holds .equal) (Operator.holds .above) (Operator.holds .atLeast)
    (by decide) (by decide)
  have valued := @join (Operator.holds .atMost) (Operator.holds .above) Option.isSome
    (by decide) (by decide)
  have whole := @join Option.isSome Option.isNone (fun _ => true) (by decide) (by decide)
  refine ⟨_, _, _, _, rowsFor_sort column,
    @named "lt" "[lt]" .below (by decide) (by decide) rfl, plain,
    @named "gt" "[gt]" .above (by decide) (by decide) rfl, ?_, ?_, ?_, ?_⟩
  · rcases filter_isNone column typed (Literal.ofText value) with ignored | missing
    · left
      have none_kept {test : Option Ordering → Bool} (fails : test none = false) :
          ((sortRows [column] survey.rows.zipIdx).filter fun row =>
            test ((Literal.ofText value).compare? (row.1.at column))) = [] := by
        rw [List.filter_eq_nil_iff]
        intro row listed
        simp [ignored row listed, fails]
      exact ⟨none_kept rfl, none_kept rfl, none_kept rfl⟩
    · right
      rw [← missing, atMost, valued, whole, List.filter_true]
  · rw [atMost]
    exact @named "lte" "[lte]" .atMost (by decide) (by decide) rfl
  · rw [atLeast]
    exact @named "gte" "[gte]" .atLeast (by decide) (by decide) rfl
  · have kept := @named "ne" "[ne]" .notEqual (by decide) (by decide) rfl
    refine kept.trans (congrArg Except.ok (List.filter_congr ?_))
    intro row listed
    have opposite : ∀ x ∈ outcomes, Operator.holds .notEqual x = !Operator.holds .equal x := by
      decide
    rw [opposite _ (mem_outcomes _), Bool.eq_iff_iff, decide_eq_true_eq, List.mem_filter]
    simp [listed]

/-- The rows of a file split by a salary: one below it, one equal to it. -/
theorem sampleFile_splits : ∃ survey all lower same upper,
    Survey.ofBytes Survey.sampleFile = .ok survey ∧
      Splits survey .salary "120000" all lower same upper := by
  obtain ⟨survey, loaded⟩ := Survey.sampleFile_loads
  obtain ⟨all, lower, same, upper, splits⟩ := splits_of_ofBytes loaded .salary "120000"
  exact ⟨survey, all, lower, same, upper, loaded, splits⟩

end Query

end SalarySurvey
