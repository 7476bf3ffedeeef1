import SalarySurvey.Proofs.Faults
import SalarySurvey.Proofs.Fields
import SalarySurvey.Proofs.Plans

/-!
# Plans and the first refusal

Of a request each key counts once: in the place where it occurs first and with the value that it is
given last. Each of these entries is understood or refused on its own, whatever the others are. A
request has a plan when all its entries are understood, and the plan is made of what they ask for;
otherwise the first entry that is refused says why. A value that the same key is given again later
is not among the entries, so it makes no difference at all.
-/
namespace SalarySurvey.Query

section Entries

/-- The entries of a request: its keys in the order of their first occurrences, each with its last
value. -/
def entries (parameters : List Parameter) : List Parameter :=
  (parameters.map Prod.fst).eraseDups.filterMap fun key =>
    (lastValue? parameters key).map fun value => (key, value)

/-- Setting a parameter keeps the keys and their order, and adds the key at the end if it is new. -/
theorem keys_setParameter (key value : String) (kept : List Parameter) :
    (setParameter key value kept).map Prod.fst =
      if key ∈ kept.map Prod.fst then kept.map Prod.fst else kept.map Prod.fst ++ [key] := by
  induction kept with
  | nil => rfl
  | cons first rest ih =>
    obtain ⟨found, old⟩ := first
    by_cases here : found = key
    · subst here
      simp [setParameter]
    · have other : ¬key = found := fun same => here same.symm
      by_cases listed : key ∈ rest.map Prod.fst
      · simp only [setParameter, if_neg here, List.map_cons, ih, List.mem_cons, other, listed,
          or_true, ↓reduceIte]
      · simp only [setParameter, if_neg here, List.map_cons, ih, List.mem_cons, other, listed,
          or_false, ↓reduceIte, List.cons_append]

/-- Collapsed parameters have the keys of a request in the order of their first occurrences. -/
theorem keys_collapse (parameters : List Parameter) :
    (collapse parameters).map Prod.fst = (parameters.map Prod.fst).eraseDups := by
  induction parameters using List.reverseRecOn with
  | nil => rfl
  | append_singleton parameters last ih =>
    obtain ⟨key, value⟩ := last
    rw [collapse_append, keys_setParameter, ih, List.map_append, List.map_singleton,
      List.eraseDups_append]
    by_cases seen : key ∈ parameters.map Prod.fst
    · rw [if_pos (List.mem_eraseDups.mpr seen)]
      simp [List.removeAll, seen]
    · rw [if_neg (mt List.mem_eraseDups.mp seen)]
      simp [List.removeAll, seen, List.eraseDups_cons]

/-- Parameters of distinct keys are their keys with what a look-up finds. -/
theorem eq_filterMap_lookup {kept : List Parameter} (distinct : (kept.map Prod.fst).Nodup) :
    kept = (kept.map Prod.fst).filterMap fun key =>
      (kept.lookup key).map fun value => (key, value) := by
  have found : ∀ entry ∈ kept,
      (kept.lookup entry.1).map (fun value => (entry.1, value)) = some entry := by
    rintro ⟨key, value⟩ listed
    rw [(mem_iff_lookup distinct).mp listed]
    rfl
  rw [List.filterMap_map]
  calc
    kept = kept.filterMap some := List.filterMap_some.symm
    _ = _ := List.filterMap_congr fun entry listed => (found entry listed).symm

/-- A request collapses to its entries. -/
theorem collapse_eq_entries (parameters : List Parameter) :
    collapse parameters = entries parameters := by
  have whole := eq_filterMap_lookup (nodup_collapse parameters)
  rw [keys_collapse] at whole
  rw [whole, entries]
  exact List.filterMap_congr fun key _ => by rw [lookup_collapse]

/-- An entry does not show a value that its key is given again later. -/
theorem entries_overridden {front back : List Parameter} {key : String} (old new : String)
    (again : key ∈ back.map Prod.fst) :
    entries (front ++ (key, old) :: back) = entries (front ++ (key, new) :: back) := by
  have known : back.reverse.lookup key ≠ none := by
    intro absent
    obtain ⟨entry, listed, rfl⟩ := List.mem_map.mp again
    have other := List.lookup_eq_none_iff.mp absent entry (List.mem_reverse.mpr listed)
    simp at other
  have values (name : String) : lastValue? (front ++ (key, old) :: back) name =
      lastValue? (front ++ (key, new) :: back) name := by
    simp only [lastValue?, List.reverse_append, List.reverse_cons, List.append_assoc,
      List.lookup_append, List.singleton_append, lookup_cons_eq_ite]
    by_cases asked : name = key
    · subst asked
      obtain ⟨value, found⟩ := Option.ne_none_iff_exists'.mp known
      rw [found, Option.some_or, Option.some_or]
    · rw [if_neg asked, if_neg asked]
  simp only [entries, values, List.map_append, List.map_cons]

end Entries

/-- A parameter is understood on its own. -/
inductive Understood : Parameter → Prop where
  /-- The columns to sort by resolve. -/
  | sort {value : String} {found : List Column} (resolves : columns value = .ok found) :
    Understood ("sort", value)
  /-- The columns to return resolve. -/
  | fields {value : String} {found : List Column} (resolves : columns value = .ok found) :
    Understood ("fields", value)
  /-- Any other parameter is a condition. -/
  | condition {key value : String} {condition : Condition} (notSort : key ≠ "sort")
    (notFields : key ≠ "fields") (parses : Condition.ofParameter key value = .ok condition) :
    Understood (key, value)

/-- A parameter is refused on its own for a reason. -/
inductive RefusedFor : Parameter → Refusal → Prop where
  /-- The columns to sort by do not resolve. -/
  | sort {value : String} {reason : Refusal} (fails : columns value = .error reason) :
    RefusedFor ("sort", value) reason
  /-- The columns to return do not resolve. -/
  | fields {value : String} {reason : Refusal} (fails : columns value = .error reason) :
    RefusedFor ("fields", value) reason
  /-- Any other parameter is no condition. -/
  | condition {key value : String} {reason : Refusal} (notSort : key ≠ "sort")
    (notFields : key ≠ "fields") (fails : Condition.ofParameter key value = .error reason) :
    RefusedFor (key, value) reason

namespace Plan

/-- What a plan holds of some entries. -/
structure Collects (plan : Plan) (kept : List Parameter) : Prop where
  /-- The conditions are those of the other entries in their order. -/
  conditions : List.Forall₂
    (fun entry condition => Condition.ofParameter entry.1 entry.2 = .ok condition)
    (kept.filter fun entry => entry.1 ≠ "sort" ∧ entry.1 ≠ "fields") plan.conditions
  /-- There are columns to sort by exactly when there is an entry for them, and they are its. -/
  sort : Option.Rel (fun value found => columns value = .ok found) (kept.lookup "sort") plan.sort
  /-- So it is with the columns to return. -/
  fields : Option.Rel (fun value found => columns value = .ok found) (kept.lookup "fields")
    plan.fields

section Steps

variable {plan next : Plan} {parameter : Parameter} {reason : Refusal} {kept : List Parameter}

/-- One more parameter is added exactly when it is understood on its own. -/
theorem exists_add_eq_ok : (∃ next, plan.add parameter = .ok next) ↔ Understood parameter := by
  constructor
  · rintro ⟨next, added⟩
    rcases add_eq_ok added with ⟨value, found, rfl, resolves, -⟩ |
      ⟨value, found, rfl, resolves, -⟩ | ⟨key, value, condition, rfl, notSort, notFields, parses, -⟩
    · exact .sort resolves
    · exact .fields resolves
    · exact .condition notSort notFields parses
  · rintro (resolves | resolves | ⟨notSort, notFields, parses⟩)
    · exact ⟨_, by rw [add_sort, resolves]; rfl⟩
    · exact ⟨_, by rw [add_fields, resolves]; rfl⟩
    · exact ⟨_, by rw [add_condition notSort notFields, parses]; rfl⟩

/-- One more parameter is refused as it is on its own. -/
theorem add_eq_error : plan.add parameter = .error reason ↔ RefusedFor parameter reason := by
  constructor
  · intro refused
    obtain ⟨key, value⟩ := parameter
    by_cases sorting : key = "sort"
    · subst sorting
      rw [add_sort, map_eq_error] at refused
      exact .sort refused
    · by_cases returning : key = "fields"
      · subst returning
        rw [add_fields, map_eq_error] at refused
        exact .fields refused
      · rw [add_condition sorting returning, map_eq_error] at refused
        exact .condition sorting returning refused
  · rintro (fails | fails | ⟨notSort, notFields, fails⟩)
    · rwa [add_sort, map_eq_error]
    · rwa [add_fields, map_eq_error]
    · rwa [add_condition notSort notFields, map_eq_error]

/-- Parameters are refused as the first of them that is refused on its own. -/
theorem foldlM_add_eq_error : kept.foldlM add plan = .error reason ↔
    FirstBad Understood (fun _ parameter => RefusedFor parameter reason) kept := by
  induction kept generalizing plan with
  | nil => simp [pure, Except.pure, not_firstBad_nil]
  | cons first rest ih =>
    rw [List.foldlM_cons, bind_eq_error, firstBad_cons, add_eq_error]
    simp only [ih, exists_and_right, exists_add_eq_ok]

/-- Parameters are added exactly when each of them is understood on its own. -/
theorem exists_foldlM_add_eq_ok :
    (∃ next, kept.foldlM add plan = .ok next) ↔ ∀ parameter ∈ kept, Understood parameter := by
  induction kept generalizing plan with
  | nil => simp [pure, Except.pure]
  | cons first rest ih =>
    simp only [List.foldlM_cons, bind_eq_ok, List.forall_mem_cons]
    rw [exists_comm]
    simp only [exists_and_left, ih, exists_and_right, exists_add_eq_ok]

end Steps

section Collecting

variable {plan other : Plan} {kept : List Parameter}

/-- A plan that collects some parameters collects one more of a new key when it is added. -/
theorem Collects.add {next : Plan} {parameter : Parameter} (collects : plan.Collects kept)
    (new : parameter.1 ∉ kept.map Prod.fst) (added : plan.add parameter = .ok next) :
    next.Collects (kept ++ [parameter]) := by
  obtain ⟨conditions, sort, fields⟩ := collects
  have others := lookup_append_singleton new
  rcases add_eq_ok added with ⟨value, found, rfl, resolves, rfl⟩ |
    ⟨value, found, rfl, resolves, rfl⟩ | ⟨key, value, condition, rfl, notSort, notFields, parses, rfl⟩
  · refine ⟨?_, ?_, ?_⟩
    · simpa using conditions
    · rw [others, if_pos rfl]
      exact .some resolves
    · rw [others, if_neg (show "fields" ≠ "sort" by decide)]
      exact fields
  · refine ⟨?_, ?_, ?_⟩
    · simpa using conditions
    · rw [others, if_neg (show "sort" ≠ "fields" by decide)]
      exact sort
    · rw [others, if_pos rfl]
      exact .some resolves
  · refine ⟨?_, ?_, ?_⟩
    · have last : [(key, value)].filter (fun entry => entry.1 ≠ "sort" ∧ entry.1 ≠ "fields") =
          [(key, value)] := by
        simp [notSort, notFields]
      rw [List.filter_append, last]
      exact List.rel_append conditions (.cons parses .nil)
    · rw [others, if_neg (Ne.symm notSort)]
      exact sort
    · rw [others, if_neg (Ne.symm notFields)]
      exact fields

/-- What parameters of distinct keys make of the empty plan collects them. -/
theorem collects_of_foldlM_add (distinct : (kept.map Prod.fst).Nodup)
    (planned : kept.foldlM Plan.add {} = .ok plan) : plan.Collects kept := by
  induction kept using List.reverseRecOn generalizing plan with
  | nil =>
    obtain rfl := Except.ok.inj planned
    exact ⟨.nil, .none, .none⟩
  | append_singleton kept last ih =>
    rw [List.foldlM_append] at planned
    obtain ⟨before, front, rest⟩ := bind_eq_ok.mp planned
    rw [List.map_append, List.map_singleton, List.nodup_append] at distinct
    rw [List.foldlM_cons] at rest
    obtain ⟨next, added, ended⟩ := bind_eq_ok.mp rest
    obtain rfl := Except.ok.inj ended
    have new : last.1 ∉ kept.map Prod.fst := fun listed =>
      distinct.2.2 _ listed _ List.mem_cons_self rfl
    exact (ih distinct.1 front).add new added

/-- Some entries are collected by one plan at most. -/
theorem Collects.unique (first : plan.Collects kept) (second : other.Collects kept) :
    plan = other := by
  have columnsOnce {asked : Option String} {one two : Option (List Column)}
      (left : Option.Rel (fun value found => columns value = .ok found) asked one)
      (right : Option.Rel (fun value found => columns value = .ok found) asked two) :
      one = two := by
    cases left with
    | none => cases right; rfl
    | some resolves =>
      cases right with
      | some again => rw [Except.ok.inj (resolves.symm.trans again)]
  have conditionsOnce : Relator.RightUnique
      fun (entry : Parameter) condition => Condition.ofParameter entry.1 entry.2 = .ok condition := by
    intro entry one two left right
    exact Except.ok.inj (left.symm.trans right)
  obtain ⟨conditions, sort, fields⟩ := plan
  obtain ⟨conditions', sort', fields'⟩ := other
  obtain rfl : conditions = conditions' :=
    List.right_unique_forall₂' conditionsOnce first.conditions second.conditions
  obtain rfl : sort = sort' := columnsOnce first.sort second.sort
  obtain rfl : fields = fields' := columnsOnce first.fields second.fields
  rfl

/-- What is related to something that is there is there too. -/
theorem exists_of_rel {α β : Type} {R : α → β → Prop} {a : α} {asked : Option β}
    (related : Option.Rel R (some a) asked) : ∃ b, R a b := by
  cases related with
  | some here => exact ⟨_, here⟩

/-- Entries of distinct keys that a plan collects are understood. -/
theorem Collects.understood (collects : plan.Collects kept) (distinct : (kept.map Prod.fst).Nodup) :
    ∀ entry ∈ kept, Understood entry := by
  rintro ⟨key, value⟩ listed
  have found := (mem_iff_lookup distinct).mp listed
  by_cases sorting : key = "sort"
  · subst sorting
    have related := collects.sort
    rw [found] at related
    obtain ⟨columns, resolves⟩ := exists_of_rel related
    exact .sort resolves
  · by_cases returning : key = "fields"
    · subst returning
      have related := collects.fields
      rw [found] at related
      obtain ⟨columns, resolves⟩ := exists_of_rel related
      exact .fields resolves
    · have kept : (key, value) ∈ kept.filter fun entry => entry.1 ≠ "sort" ∧ entry.1 ≠ "fields" :=
        List.mem_filter.mpr ⟨listed, by simp [sorting, returning]⟩
      obtain ⟨place, bound, stands⟩ := List.getElem_of_mem kept
      have parses := collects.conditions.get bound (by rwa [← collects.conditions.length_eq])
      rw [List.get_eq_getElem, stands] at parses
      exact .condition sorting returning parses

end Collecting

/-- A request has a plan exactly when each of its entries is understood on its own, and the plan is
then the one that collects the entries. Otherwise it is refused for the reason of the first entry
that is refused on its own. Other values for a key that is given again later change nothing. -/
theorem ofParameters_outcome (parameters : List Parameter) :
    ((∃ plan, ofParameters parameters = .ok plan) ↔
      ∀ entry ∈ entries parameters, Understood entry) ∧
    (∀ plan, ofParameters parameters = .ok plan ↔ plan.Collects (entries parameters)) ∧
    (∀ reason, ofParameters parameters = .error reason ↔
      FirstBad Understood (fun _ entry => RefusedFor entry reason) (entries parameters)) ∧
    ∀ front key old new back, parameters = front ++ (key, old) :: back → key ∈ back.map Prod.fst →
      ofParameters (front ++ (key, new) :: back) = ofParameters parameters := by
  have distinct : ((entries parameters).map Prod.fst).Nodup := by
    rw [← collapse_eq_entries]
    exact nodup_collapse parameters
  have unfolded (others : List Parameter) :
      ofParameters others = (entries others).foldlM add {} := by
    rw [ofParameters, collapse_eq_entries]
  have planned : (∃ plan, ofParameters parameters = .ok plan) ↔
      ∀ entry ∈ entries parameters, Understood entry := by
    rw [unfolded]
    exact exists_foldlM_add_eq_ok
  refine ⟨planned, ?_, ?_, ?_⟩
  · intro plan
    constructor
    · intro found
      rw [unfolded] at found
      exact collects_of_foldlM_add distinct found
    · intro collects
      obtain ⟨other, found⟩ := planned.mpr (collects.understood distinct)
      rw [unfolded] at found ⊢
      rw [collects.unique (collects_of_foldlM_add distinct found), found]
  · intro reason
    rw [unfolded]
    exact foldlM_add_eq_error
  · rintro front key old new back rfl again
    rw [unfolded, unfolded, entries_overridden old new again]

/-- An unknown column to sort by is overridden behind an unknown key, which is then refused. -/
theorem ofParameters_outcome_overridden :
    let back := [("wage", "1"), ("fields", "nope"), ("sort", "salary")]
    ofParameters (("sort", "salary") :: back) = ofParameters (("sort", "nope") :: back) ∧
      ofParameters (("sort", "nope") :: back) = .error (.unsupportedKey "wage") := by
  intro back
  obtain ⟨-, -, -, overridden⟩ := ofParameters_outcome (("sort", "nope") :: back)
  exact ⟨overridden [] "sort" "nope" "salary" back rfl (by decide), by decide⟩

end Plan

end SalarySurvey.Query
