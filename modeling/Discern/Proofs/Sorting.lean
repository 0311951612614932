import Mathlib.Data.List.Sort

/-!
# Stable sorting

Sorting keeps the order of members that may stand on either side of one another.
-/

namespace Discern

/-- **Sorting is stable.**  Members that are level stand in a sorted list as they stood before. -/
theorem filter_mergeSort {α : Type*} {le : α → α → Bool}
    (transitive : ∀ a b c, le a b → le b c → le a c) (total : ∀ a b, le a b || le b a)
    {level : α → Bool} (alike : ∀ a b, level a → level b → le a b) (xs : List α) :
    (xs.mergeSort le).filter level = xs.filter level := by
  have ordered : (xs.filter level).Pairwise (le · ·) :=
    List.pairwise_of_forall_mem_list fun a first b second =>
      alike a b (List.mem_filter.mp first).2 (List.mem_filter.mp second).2
  have kept := (List.sublist_mergeSort transitive total ordered List.filter_sublist).filter level
  rw [List.filter_filter] at kept
  simp only [Bool.and_self] at kept
  exact (kept.eq_of_length ((List.mergeSort_perm xs le).filter level).length_eq.symm).symm

end Discern
