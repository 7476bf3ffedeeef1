import SalarySurvey.Proofs.Loading
import SalarySurvey.Query.Answer
import Mathlib.Data.List.Induction

/-!
# Columns of an answer

A word list repeats no word, and the columns that it names have its words as their names. So no
column is repeated among those that a plan returns, however often a request names it, nor in an
answer, which has these or all columns.
-/
namespace SalarySurvey.Query

theorem nodup_eraseDups (texts : List String) : texts.eraseDups.Nodup := by
  induction texts using List.reverseRecOn with
  | nil => simp
  | append_singleton texts text ih =>
    rw [List.eraseDups_append]
    by_cases seen : text ∈ texts
    · simpa [List.removeAll, seen] using ih
    · have last : ([text].removeAll texts).eraseDups = [text] := by
        simp [List.removeAll, seen, List.eraseDups_cons]
      rw [last, List.nodup_append]
      refine ⟨ih, by simp, ?_⟩
      rintro earlier listed later same rfl
      rw [List.mem_singleton.mp same, List.mem_eraseDups] at listed
      contradiction

/-- The columns that some words name have these names. -/
theorem map_name_columnsOf {words : List String} {found : List Column}
    (named : columnsOf words = .ok found) : found.map Column.name = words := by
  induction words generalizing found with
  | nil =>
    obtain rfl := Except.ok.inj named
    rfl
  | cons word words ih =>
    unfold columnsOf at named
    split at named
    · contradiction
    · next column first =>
      obtain ⟨others, rest, rfl⟩ := map_eq_ok.mp named
      rw [List.map_cons, ih rest, Column.name_of_ofName? first]

/-- A word list does not name a column twice. -/
theorem nodup_columns {text : String} {found : List Column} (named : columns text = .ok found) :
    (found.map Column.name).Nodup := by
  rw [map_name_columnsOf named]
  exact nodup_eraseDups _

namespace Plan

section Steps

variable {plan next : Plan} {parameter : Parameter}

theorem add_sort {value : String} : plan.add ("sort", value) =
    (columns value).map fun found => { plan with sort := some found } := by
  simp [add]

theorem add_fields {value : String} : plan.add ("fields", value) =
    (columns value).map fun found => { plan with fields := some found } := by
  simp [add]

theorem add_condition {key value : String} (notSort : key ≠ "sort") (notFields : key ≠ "fields") :
    plan.add (key, value) = (Condition.ofParameter key value).map fun condition =>
      { plan with conditions := plan.conditions ++ [condition] } := by
  simp [add, notSort, notFields]

/-- What a parameter that is added does to a plan. -/
theorem add_eq_ok (added : plan.add parameter = .ok next) :
    (∃ value found, parameter = ("sort", value) ∧ columns value = .ok found ∧
      next = { plan with sort := some found }) ∨
    (∃ value found, parameter = ("fields", value) ∧ columns value = .ok found ∧
      next = { plan with fields := some found }) ∨
    ∃ key value condition, parameter = (key, value) ∧ key ≠ "sort" ∧ key ≠ "fields" ∧
      Condition.ofParameter key value = .ok condition ∧
      next = { plan with conditions := plan.conditions ++ [condition] } := by
  obtain ⟨key, value⟩ := parameter
  by_cases sorting : key = "sort"
  · subst sorting
    rw [add_sort, map_eq_ok] at added
    obtain ⟨found, resolves, rfl⟩ := added
    exact .inl ⟨value, found, rfl, resolves, rfl⟩
  · by_cases returning : key = "fields"
    · subst returning
      rw [add_fields, map_eq_ok] at added
      obtain ⟨found, resolves, rfl⟩ := added
      exact .inr (.inl ⟨value, found, rfl, resolves, rfl⟩)
    · rw [add_condition sorting returning, map_eq_ok] at added
      obtain ⟨condition, parses, rfl⟩ := added
      exact .inr (.inr ⟨key, value, condition, rfl, sorting, returning, parses, rfl⟩)

end Steps

end Plan

/-- Whether a plan returns no column twice. -/
def Plan.Distinct (plan : Plan) : Prop :=
  ∀ found ∈ plan.fields, (found.map Column.name).Nodup

/-- One more parameter leaves the returned columns distinct. -/
theorem Plan.Distinct.add {plan next : Plan} (distinct : plan.Distinct) {parameter : Parameter}
    (understood : plan.add parameter = .ok next) : next.Distinct := by
  rcases Plan.add_eq_ok understood with ⟨value, found, -, -, rfl⟩ | ⟨value, found, -, named, rfl⟩ |
    ⟨key, value, condition, -, -, -, -, rfl⟩
  · exact distinct
  · rintro returned ⟨⟩
    exact nodup_columns named
  · exact distinct

/-- A plan returns no column twice. -/
theorem Plan.distinct_of_ofParameters {parameters : List Parameter} {plan : Plan}
    (planned : Plan.ofParameters parameters = .ok plan) : plan.Distinct := by
  -- By induction on the parameters that are left, from any plan that is distinct so far.
  have run (start : Plan) (distinct : start.Distinct) (kept : List Parameter)
      (added : kept.foldlM Plan.add start = .ok plan) : plan.Distinct := by
    induction kept generalizing start with
    | nil =>
      obtain rfl := Except.ok.inj added
      exact distinct
    | cons parameter kept ih =>
      rw [List.foldlM_cons] at added
      obtain ⟨next, understood, rest⟩ := bind_eq_ok.mp added
      exact ih next (distinct.add understood) rest
  exact run {} (fun _ listed => by contradiction) _ planned

/-- An answer shows no column twice. -/
theorem nodup_columns_answer {survey : Survey} {parameters : List Parameter} {found : Answer}
    (answered : answer survey parameters = .ok found) : (found.columns.map Column.name).Nodup := by
  obtain ⟨plan, planned, rfl⟩ := map_eq_ok.mp answered
  have distinct := Plan.distinct_of_ofParameters planned
  cases returned : plan.fields with
  | none =>
    have all : (Column.all.map Column.name).Nodup := by decide
    simpa [Plan.answer, returned] using all
  | some columns => simpa [Plan.answer, returned] using distinct columns returned

end SalarySurvey.Query
