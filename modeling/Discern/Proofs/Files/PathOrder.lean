import Discern.Files.Path
import Mathlib.Data.List.Lex
import Mathlib.Data.Prod.Lex
import Mathlib.Data.String.Basic

/-!
# The order of paths

Paths are in the order of their sequences of steps: the order is transitive and total, and two
paths that come before each other have the same steps (`Path.steps_eq_of_le_of_le`).  They can
still be written in different ways.
-/

namespace Discern

namespace PathStep

/-- What a step is compared by: the rank of its kind, and its name. -/
def key : PathStep → Nat ×ₗ String
  | name s => toLex (3, s)
  | step => toLex (step.rank, "")

/-- Steps have different keys. -/
theorem key_injective : Function.Injective key := by
  intro a b same
  cases a <;> cases b <;> simp_all [key, rank]

/-- Steps are ordered by their keys. -/
theorem lt_iff (a b : PathStep) : a.lt b = true ↔ a.key < b.key := by
  cases a <;> cases b <;> simp [lt, key, rank, Prod.Lex.toLex_lt_toLex]

end PathStep

namespace Path

/-- Lists of steps are ordered as the lists of their keys are. -/
theorem stepsLe_iff (as bs : List PathStep) :
    stepsLe as bs = true ↔ as.map PathStep.key ≤ bs.map PathStep.key := by
  rw [← not_lt]
  induction as generalizing bs with
  | nil => exact ⟨fun _ => List.not_lt_nil _, fun _ => rfl⟩
  | cons a as ih =>
      cases bs with
      | nil => exact ⟨nofun, fun least => absurd (List.nil_lt_cons _ _) least⟩
      | cons b bs =>
          rw [stepsLe, List.map_cons, List.map_cons, List.cons_lt_cons_iff]
          by_cases same : a = b
          · rw [if_pos same, ih, same]
            simp only [lt_irrefl, true_and, false_or]
          · have apart : b.key ≠ a.key := fun tie => same (PathStep.key_injective tie).symm
            rw [if_neg same, PathStep.lt_iff]
            simp only [apart, false_and, or_false, not_lt]
            exact ⟨le_of_lt, fun le => lt_of_le_of_ne le apart.symm⟩

theorem le_of_le_of_le {p q r : Path} (first : p.le q = true) (second : q.le r = true) :
    p.le r = true :=
  (stepsLe_iff _ _).mpr (((stepsLe_iff _ _).mp first).trans ((stepsLe_iff _ _).mp second))

theorem le_or_le (p q : Path) : (p.le q || q.le p) = true := by
  rw [Bool.or_eq_true, le, le, stepsLe_iff, stepsLe_iff]
  exact le_total _ _

/-- Paths with the same steps are in order both ways. -/
theorem le_of_steps_eq {p q : Path} (same : p.steps = q.steps) : p.le q = true := by
  rw [le, stepsLe_iff, same]

/-- Only paths with the same steps are in order both ways. -/
theorem steps_eq_of_le_of_le {p q : Path} (first : p.le q = true) (second : q.le p = true) :
    p.steps = q.steps :=
  List.map_injective_iff.mpr PathStep.key_injective
    (le_antisymm ((stepsLe_iff _ _).mp first) ((stepsLe_iff _ _).mp second))

end Path

end Discern
