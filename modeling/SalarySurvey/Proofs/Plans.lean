import SalarySurvey.Proofs.Associations
import SalarySurvey.Proofs.Fields
import SalarySurvey.Proofs.Sorting
import Mathlib.Data.List.Induction

/-!
# Plans and the order of parameters

Collapsing leaves one parameter for each key, with the last value of the key. Requests that agree
on the last values of all keys therefore collapse to permutations of each other. Parameters of
different keys may be added to a plan in either order: the columns to sort by and the columns to
return come from one key each, and the conditions are only permuted, which no row can tell.
So such requests are refused together or answered alike, whatever their overridden values were.
-/
namespace SalarySurvey.Query

/-- The value that counts for a key: the last one that it is given. -/
def lastValue? (parameters : List Parameter) (key : String) : Option String :=
  parameters.reverse.lookup key

section Collapse

theorem lookup_setParameter (key value : String) (kept : List Parameter) (name : String) :
    (setParameter key value kept).lookup name =
      if name = key then some value else kept.lookup name := by
  induction kept with
  | nil => rw [setParameter, lookup_cons_eq_ite]
  | cons first rest ih =>
    obtain ⟨found, old⟩ := first
    by_cases here : found = key
    · subst here
      by_cases asked : name = found <;> simp [setParameter, lookup_cons_eq_ite, asked]
    · rw [setParameter, if_neg here, lookup_cons_eq_ite, lookup_cons_eq_ite, ih]
      by_cases asked : name = found
      · subst asked
        simp [here]
      · simp [asked]

theorem mem_keys_setParameter {key value name : String} {kept : List Parameter} :
    name ∈ (setParameter key value kept).map Prod.fst ↔
      name = key ∨ name ∈ kept.map Prod.fst := by
  induction kept with
  | nil => simp [setParameter]
  | cons first rest ih =>
    obtain ⟨found, old⟩ := first
    by_cases here : found = key
    · subst here
      simp [setParameter]
    · simp only [setParameter, if_neg here, List.map_cons, List.mem_cons, ih]
      exact or_left_comm

theorem nodup_setParameter {key value : String} {kept : List Parameter}
    (distinct : (kept.map Prod.fst).Nodup) :
    ((setParameter key value kept).map Prod.fst).Nodup := by
  induction kept with
  | nil => simp [setParameter]
  | cons first rest ih =>
    obtain ⟨found, old⟩ := first
    rw [List.map_cons, List.nodup_cons] at distinct
    by_cases here : found = key
    · subst here
      simpa [setParameter] using distinct
    · simp only [setParameter, if_neg here, List.map_cons, List.nodup_cons]
      refine ⟨?_, ih distinct.2⟩
      rw [mem_keys_setParameter, not_or]
      exact ⟨here, distinct.1⟩

/-- One more parameter is set in what the others collapse to. -/
theorem collapse_append (parameters : List Parameter) (key value : String) :
    collapse (parameters ++ [(key, value)]) = setParameter key value (collapse parameters) := by
  simp [collapse]

/-- Each key occurs once in collapsed parameters. -/
theorem nodup_collapse (parameters : List Parameter) :
    ((collapse parameters).map Prod.fst).Nodup := by
  induction parameters using List.reverseRecOn with
  | nil => exact List.nodup_nil
  | append_singleton parameters last ih =>
    rw [collapse_append]
    exact nodup_setParameter ih

/-- Collapsed parameters have the last value of every key. -/
theorem lookup_collapse (parameters : List Parameter) (key : String) :
    (collapse parameters).lookup key = lastValue? parameters key := by
  induction parameters using List.reverseRecOn with
  | nil => rfl
  | append_singleton parameters last ih =>
    obtain ⟨name, value⟩ := last
    rw [collapse_append, lookup_setParameter, ih, lastValue?, lastValue?, List.reverse_append,
      List.reverse_singleton, List.singleton_append, lookup_cons_eq_ite]

/-- Parameters that agree on the last value of every key collapse to the same ones, in an order
of their own. -/
theorem collapse_perm {parameters others : List Parameter}
    (same : ∀ key, lastValue? parameters key = lastValue? others key) :
    (collapse parameters).Perm (collapse others) := by
  have left := nodup_collapse parameters
  have right := nodup_collapse others
  rw [List.perm_ext_iff_of_nodup (List.Nodup.of_map _ left) (List.Nodup.of_map _ right)]
  rintro ⟨key, value⟩
  rw [mem_iff_lookup left, mem_iff_lookup right, lookup_collapse, lookup_collapse, same]

end Collapse

namespace Plan

/-- What two plans share that differ in the order of their conditions only. -/
structure Alike (one other : Plan) : Prop where
  /-- The conditions are the same ones. -/
  conditions : one.conditions.Perm other.conditions
  /-- The columns to sort by are the same. -/
  sort : one.sort = other.sort
  /-- The columns to return are the same. -/
  fields : one.fields = other.fields

theorem Alike.refl (plan : Plan) : Alike plan plan := ⟨.refl _, rfl, rfl⟩

theorem Alike.trans {one two three : Plan} (first : Alike one two) (second : Alike two three) :
    Alike one three :=
  ⟨first.conditions.trans second.conditions, first.sort.trans second.sort,
    first.fields.trans second.fields⟩

/-- Plans that differ in the order of their conditions have one answer. -/
theorem Alike.answer_eq {one other : Plan} (alike : Alike one other) (survey : Survey) :
    one.answer survey = other.answer survey := by
  have meets : ∀ row : Row, one.conditions.all (fun condition => condition.holds row) =
      other.conditions.all fun condition => condition.holds row := fun _ =>
    alike.conditions.all_eq
  simp only [Plan.answer, alike.sort, alike.fields, meets]

/-- Two attempts at a plan that are refused together or have plans alike. -/
inductive Matched : Except Refusal Plan → Except Refusal Plan → Prop where
  /-- Both are refused, each for a reason of its own. -/
  | refused (one other : Refusal) : Matched (.error one) (.error other)
  /-- Both succeed. -/
  | planned {one other : Plan} (alike : Alike one other) : Matched (.ok one) (.ok other)

theorem Matched.refl (attempt : Except Refusal Plan) : Matched attempt attempt := by
  cases attempt with
  | error reason => exact .refused reason reason
  | ok plan => exact .planned (.refl plan)

theorem Matched.trans {one two three : Except Refusal Plan} (first : Matched one two)
    (second : Matched two three) : Matched one three := by
  cases first with
  | refused => cases second with | refused => exact .refused _ _
  | planned alike => cases second with | planned next => exact .planned (alike.trans next)

/-- Matched attempts stay matched when what follows keeps plans alike matched. -/
theorem Matched.bind {one other : Except Refusal Plan} {left right : Plan → Except Refusal Plan}
    (first : Matched one other) (next : ∀ {a b}, Alike a b → Matched (left a) (right b)) :
    Matched (one >>= left) (other >>= right) := by
  cases first with
  | refused => exact .refused _ _
  | planned alike => exact next alike

/-- A plan with what another one asks for: its conditions come last and its columns count. -/
def join (plan part : Plan) : Plan where
  conditions := plan.conditions ++ part.conditions
  sort := part.sort.or plan.sort
  fields := part.fields.or plan.fields

/-- A parameter is understood on its own, whatever it is added to. -/
theorem add_eq_map_join (plan : Plan) (parameter : Parameter) :
    plan.add parameter = (Plan.add {} parameter).map plan.join := by
  obtain ⟨key, value⟩ := parameter
  by_cases sorting : key = "sort"
  · simp only [Plan.add, if_pos sorting]
    cases columns value <;> simp [Except.map, join]
  · by_cases returning : key = "fields"
    · simp only [Plan.add, if_neg sorting, if_pos returning]
      cases columns value <;> simp [Except.map, join]
    · simp only [Plan.add, if_neg sorting, if_neg returning]
      cases Condition.ofParameter key value <;> simp [Except.map, join]

/-- Only its own key sets the columns to sort by, and only its own the columns to return. -/
theorem columns_of_add {parameter : Parameter} {part : Plan}
    (understood : Plan.add {} parameter = .ok part) :
    (parameter.1 ≠ "sort" → part.sort = none) ∧ (parameter.1 ≠ "fields" → part.fields = none) := by
  rcases add_eq_ok understood with ⟨value, found, rfl, -, rfl⟩ | ⟨value, found, rfl, -, rfl⟩ |
    ⟨key, value, condition, rfl, -, -, -, rfl⟩
  · exact ⟨fun other => absurd rfl other, fun _ => rfl⟩
  · exact ⟨fun _ => rfl, fun other => absurd rfl other⟩
  · exact ⟨fun _ => rfl, fun _ => rfl⟩

theorem Alike.join {one other : Plan} (alike : Alike one other) (part : Plan) :
    Alike (one.join part) (other.join part) :=
  ⟨alike.conditions.append_right _, congrArg part.sort.or alike.sort,
    congrArg part.fields.or alike.fields⟩

/-- Of two choices at most one of which is made, either may come first. -/
theorem or_left_comm_of_none {α : Type} {first second : Option α} (base : Option α)
    (single : first = none ∨ second = none) :
    second.or (first.or base) = first.or (second.or base) := by
  rcases single with rfl | rfl <;> simp

/-- Two parameters of different keys may be added in either order. -/
theorem add_comm (plan : Plan) {first second : Parameter} (different : first.1 ≠ second.1) :
    Matched (plan.add first >>= (Plan.add · second)) (plan.add second >>= (Plan.add · first)) := by
  -- What a parameter adds does not depend on the plan, so both orders add the same two parts.
  have inOrder (one two : Parameter) : plan.add one >>= (Plan.add · two) =
      (Plan.add {} one >>= fun part => (Plan.add {} two).map (plan.join part).join) := by
    rw [add_eq_map_join plan one]
    cases Plan.add {} one with
    | error reason => rfl
    | ok part => exact add_eq_map_join (plan.join part) two
  rw [inOrder first second, inOrder second first]
  cases left : Plan.add {} first with
  | error reason =>
    cases Plan.add {} second with
    | error other => exact .refused reason other
    | ok other => exact .refused reason reason
  | ok part =>
    cases right : Plan.add {} second with
    | error reason => exact .refused reason reason
    | ok other =>
      have one := columns_of_add left
      have two := columns_of_add right
      have apart (key : String) : first.1 ≠ key ∨ second.1 ≠ key := by
        by_cases named : first.1 = key
        · exact .inr fun also => different (named.trans also.symm)
        · exact .inl named
      refine .planned ⟨?_, ?_, ?_⟩
      · simp only [Plan.join, List.append_assoc]
        exact List.perm_append_comm.append_left plan.conditions
      · exact or_left_comm_of_none _ ((apart "sort").imp one.1 two.1)
      · exact or_left_comm_of_none _ ((apart "fields").imp one.2 two.2)

/-- Plans alike stay matched when they get the same parameter. -/
theorem Alike.add {one other : Plan} (alike : Alike one other) (parameter : Parameter) :
    Matched (one.add parameter) (other.add parameter) := by
  rw [add_eq_map_join one, add_eq_map_join other]
  cases Plan.add {} parameter with
  | error reason => exact .refused reason reason
  | ok part => exact .planned (alike.join part)

/-- Plans alike stay matched when they get the same parameters. -/
theorem Alike.foldlM_add {one other : Plan} (alike : Alike one other)
    (parameters : List Parameter) :
    Matched (parameters.foldlM Plan.add one) (parameters.foldlM Plan.add other) := by
  induction parameters generalizing one other with
  | nil => exact .planned alike
  | cons first rest ih =>
    rw [List.foldlM_cons, List.foldlM_cons]
    exact (alike.add first).bind ih

/-- Parameters of distinct keys may be added in any order, to plans alike. -/
theorem foldlM_add_perm {parameters others : List Parameter} (perm : parameters.Perm others)
    (distinct : (parameters.map Prod.fst).Nodup) {one other : Plan} (alike : Alike one other) :
    Matched (parameters.foldlM add one) (others.foldlM add other) := by
  induction perm generalizing one other with
  | nil => exact .planned alike
  | cons first rest ih =>
    rw [List.map_cons, List.nodup_cons] at distinct
    rw [List.foldlM_cons, List.foldlM_cons]
    exact (alike.add first).bind fun next => ih distinct.2 next
  | swap first second rest =>
    have different : second.1 ≠ first.1 := by
      simp only [List.map_cons, List.nodup_cons, List.mem_cons, not_or] at distinct
      exact distinct.1.1
    have swapped : Matched (one.add second >>= (Plan.add · first))
        (other.add first >>= (Plan.add · second)) :=
      (add_comm one different).trans ((alike.add first).bind fun next => next.add second)
    have finished := swapped.bind fun next => next.foldlM_add rest
    simpa only [List.foldlM_cons, bind_assoc] using finished
  | trans front back ihFront ihBack =>
    have middle := (front.map Prod.fst).nodup_iff.mp distinct
    exact (ihFront distinct (.refl one)).trans (ihBack middle alike)

end Plan

/-- Two requests with the same keys and the same last value for each of them, in whatever order and
among whatever overridden values, are both refused or have one answer: the same columns and the
same rows at the same positions, hence the same text. -/
theorem answer_of_lastValue? {parameters others : List Parameter}
    (same : ∀ key, lastValue? parameters key = lastValue? others key) (survey : Survey) :
    (∃ one other, answer survey parameters = .error one ∧ answer survey others = .error other) ∨
      ∃ found, answer survey parameters = .ok found ∧ answer survey others = .ok found := by
  have matched : Plan.Matched (Plan.ofParameters parameters) (Plan.ofParameters others) :=
    Plan.foldlM_add_perm (collapse_perm same) (nodup_collapse parameters) (.refl {})
  unfold answer
  generalize Plan.ofParameters parameters = left at matched ⊢
  generalize Plan.ofParameters others = right at matched ⊢
  cases matched with
  | refused one other => exact .inl ⟨one, other, rfl, rfl⟩
  | planned alike => exact .inr ⟨_, rfl, congrArg Except.ok (alike.answer_eq survey).symm⟩

/-- Two requests for a file, one of which sorts by an unknown column before it thinks better. -/
theorem sampleFile_answer_of_lastValue? :
    let parameters := [("sort", "wage"), ("salary[gte]", "5"), ("sort", "salary")]
    let others := [("salary[gte]", "5"), ("sort", "salary")]
    ∃ survey, Survey.ofBytes Survey.sampleFile = .ok survey ∧
      (∀ key, lastValue? parameters key = lastValue? others key) ∧
      ((∃ one other, answer survey parameters = .error one ∧
          answer survey others = .error other) ∨
        ∃ found, answer survey parameters = .ok found ∧ answer survey others = .ok found) := by
  intro parameters others
  obtain ⟨survey, loaded⟩ := Survey.sampleFile_loads
  have same : ∀ key, lastValue? parameters key = lastValue? others key := by
    intro key
    by_cases sorting : key = "sort"
    · subst sorting
      rfl
    · simp [lastValue?, parameters, others, lookup_cons_eq_ite, sorting]
  exact ⟨survey, loaded, same, answer_of_lastValue? same survey⟩

end SalarySurvey.Query
