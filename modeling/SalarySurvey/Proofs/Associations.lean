import Mathlib.Data.List.Nodup

/-!
# Look-ups in lists of pairs

A look-up finds the value of the first pair with a key. Where no key occurs twice it finds every
pair of the list, so the order of the pairs does not matter.
-/
namespace SalarySurvey

variable {α β : Type} [DecidableEq α] {list other : List (α × β)} {key : α} {value : β}

/-- What a list gives for a name is decided by its first entry, or else by the rest. -/
theorem lookup_cons_eq_ite (key : α) (value : β) (rest : List (α × β)) (name : α) :
    ((key, value) :: rest).lookup name = if name = key then some value else rest.lookup name := by
  rw [List.lookup_cons]
  by_cases asked : name = key
  · simp [asked]
  · have other : (name == key) = false := by simpa using asked
    simp [asked, other]

/-- What a list gives for a key stands in it. -/
theorem mem_of_lookup (known : list.lookup key = some value) : (key, value) ∈ list := by
  obtain ⟨front, back, rfl, -⟩ := List.lookup_eq_some_iff.mp known
  simp

/-- A list gives nothing for a key that it does not have. -/
theorem lookup_eq_none (absent : key ∉ list.map Prod.fst) : list.lookup key = none := by
  rw [List.lookup_eq_none_iff]
  intro entry listed
  rw [bne_iff_ne]
  intro same
  exact absent (List.mem_map.mpr ⟨entry, listed, same.symm⟩)

/-- A look-up behind other pairs finds the last one if none in front has its key. -/
theorem lookup_append_singleton {pair : α × β} (new : pair.1 ∉ list.map Prod.fst) (name : α) :
    (list ++ [pair]).lookup name = if name = pair.1 then some pair.2 else list.lookup name := by
  rw [List.lookup_append, lookup_cons_eq_ite, List.lookup_nil]
  by_cases asked : name = pair.1
  · rw [asked, lookup_eq_none new, if_pos rfl, Option.none_or]
  · rw [if_neg asked, if_neg asked, Option.or_none]

/-- A pair in a list of distinct keys is what a look-up of its key finds. -/
theorem mem_iff_lookup (distinct : (list.map Prod.fst).Nodup) :
    (key, value) ∈ list ↔ list.lookup key = some value := by
  refine ⟨fun listed => ?_, mem_of_lookup⟩
  induction list with
  | nil => exact absurd listed List.not_mem_nil
  | cons first rest ih =>
    obtain ⟨name, found⟩ := first
    rw [List.map_cons, List.nodup_cons] at distinct
    rw [lookup_cons_eq_ite]
    rcases List.mem_cons.mp listed with same | behind
    · obtain ⟨rfl, rfl⟩ := Prod.mk.inj same
      exact if_pos rfl
    · have different : key ≠ name := by
        rintro rfl
        exact distinct.1 (List.mem_map.mpr ⟨_, behind, rfl⟩)
      rw [if_neg different, ih distinct.2 behind]

/-- Lists of distinct keys give the same in any order. -/
theorem lookup_eq_of_perm (distinct : (list.map Prod.fst).Nodup) (perm : list.Perm other)
    (key : α) : list.lookup key = other.lookup key := by
  have otherDistinct : (other.map Prod.fst).Nodup := (perm.map Prod.fst).nodup_iff.mp distinct
  apply Option.ext
  intro value
  rw [← mem_iff_lookup distinct, perm.mem_iff, mem_iff_lookup otherDistinct]

end SalarySurvey
