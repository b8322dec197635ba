import Mathlib.Data.List.Nodup

/-! Lookups in lists in which every key stands once: they find whatever is listed, wherever it
stands. -/
namespace ArchiveUpkeep.DistinctKeys
variable {α κ : Type} [DecidableEq κ] {key : α → κ} {l other : List α} {a : α} {k : κ}

theorem find?_eq_some_iff (distinct : (l.map key).Nodup) :
    l.find? (key · = k) = some a ↔ a ∈ l ∧ key a = k := by
  constructor
  · intro found
    exact ⟨List.mem_of_find?_eq_some found, by simpa using List.find?_some found⟩
  · rintro ⟨listed, same⟩
    cases found : l.find? (key · = k) with
    | none => exact absurd (List.find?_eq_none.1 found a listed) (by simp [same])
    | some first =>
      have sameKey : key first = k := by simpa using List.find?_some found
      rw [List.inj_on_of_nodup_map distinct (List.mem_of_find?_eq_some found) listed
        (sameKey.trans same.symm)]

theorem find?_eq_of_perm (distinct : (l.map key).Nodup) (perm : other.Perm l) :
    other.find? (key · = k) = l.find? (key · = k) := by
  ext a
  rw [find?_eq_some_iff distinct, find?_eq_some_iff ((perm.map key).nodup_iff.2 distinct),
    perm.mem_iff]

/-- All that is listed under a key is what a lookup finds. -/
theorem filter_eq_toList_find? (distinct : (l.map key).Nodup) (k : κ) :
    l.filter (key · = k) = (l.find? (key · = k)).toList := by
  induction l with
  | nil => rfl
  | cons head rest ih =>
    obtain ⟨fresh, restDistinct⟩ := List.nodup_cons.1 distinct
    by_cases hit : key head = k
    · have others : rest.filter (key · = k) = [] := by
        refine List.filter_eq_nil_iff.2 fun other inRest => ?_
        have : key other ≠ k := fun same =>
          fresh (List.mem_map.2 ⟨other, inRest, same.trans hit.symm⟩)
        simpa using this
      simp [hit, others]
    · simp [hit, ih restDistinct]

end ArchiveUpkeep.DistinctKeys
