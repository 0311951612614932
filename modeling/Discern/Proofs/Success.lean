import Mathlib.Tactic.TypeStar

/-!
# Success of a step

A step that can fail succeeds exactly if its parts do, and it fails with what one of its parts
fails with.
-/

namespace Discern

variable {ε ε' : Type*}

/-- A sequence succeeds exactly if both of its steps do. -/
theorem bind_eq_ok_iff {α β : Type*} {x : Except ε α} {f : α → Except ε β} {b : β} :
    x.bind f = .ok b ↔ ∃ a, x = .ok a ∧ f a = .ok b := by
  cases x <;> simp [Except.bind]

/-- A sequence fails with the fault of its first step, or that of its second behind a success. -/
theorem bind_eq_error_iff {α β : Type*} {x : Except ε α} {f : α → Except ε β} {e : ε} :
    x.bind f = .error e ↔ x = .error e ∨ ∃ a, x = .ok a ∧ f a = .error e := by
  cases x <;> simp [Except.bind]

theorem map_eq_ok_iff {α β : Type*} {x : Except ε α} {f : α → β} {b : β} :
    x.map f = .ok b ↔ ∃ a, x = .ok a ∧ f a = b := by
  cases x <;> simp [Except.map]

theorem map_eq_error_iff {α β : Type*} {x : Except ε α} {f : α → β} {e : ε} :
    x.map f = .error e ↔ x = .error e := by
  cases x <;> simp [Except.map]

theorem mapError_eq_ok_iff {α : Type*} {x : Except ε α} {f : ε → ε'} {a : α} :
    x.mapError f = .ok a ↔ x = .ok a := by
  cases x with
  | error _ => exact iff_of_false (fun failed => by cases failed) (fun failed => by cases failed)
  | ok b =>
      have kept : (Except.ok b : Except ε α).mapError f = .ok b := rfl
      rw [kept, Except.ok.injEq, Except.ok.injEq]

theorem mapError_eq_error_iff {α : Type*} {x : Except ε α} {f : ε → ε'} {e : ε'} :
    x.mapError f = .error e ↔ ∃ cause, x = .error cause ∧ f cause = e := by
  cases x with
  | error d =>
      have changed : (Except.error d : Except ε α).mapError f = .error (f d) := rfl
      simp [changed]
  | ok _ => exact iff_of_false (fun failed => by cases failed) fun ⟨_, failed, _⟩ => by cases failed

theorem exists_eq_ok {α : Type*} {x : Except ε α} (succeeds : x.toOption.isSome = true) :
    ∃ a, x = .ok a := by
  cases x with
  | error _ => cases succeeds
  | ok a => exact ⟨a, rfl⟩

/-! ## A row of steps -/

section Row

variable {α β : Type*} {f : α → Except ε β} {xs : List α}

/-- Each result of a traversal that succeeds comes from one of the elements. -/
theorem exists_of_mapM_eq_ok {ys : List β} (taken : xs.mapM f = .ok ys) {y : β} (member : y ∈ ys) :
    ∃ x ∈ xs, f x = .ok y := by
  induction xs generalizing ys with
  | nil =>
      cases taken
      cases member
  | cons x xs ih =>
      rw [List.mapM_cons] at taken
      obtain ⟨first, here, taken⟩ := bind_eq_ok_iff.1 taken
      obtain ⟨later, rest, same⟩ := bind_eq_ok_iff.1 taken
      cases same
      rcases List.mem_cons.1 member with rfl | member
      · exact ⟨x, List.mem_cons_self, here⟩
      · obtain ⟨source, listed, there⟩ := ih rest member
        exact ⟨source, List.mem_cons_of_mem x listed, there⟩

/-- A row of steps succeeds with a list if each step succeeds with its member. -/
theorem mapM_eq_ok {ys : List β} (length : ys.length = xs.length)
    (each : ∀ (k : Nat) (x : α), xs[k]? = some x → ∃ y, ys[k]? = some y ∧ f x = .ok y) :
    xs.mapM f = .ok ys := by
  induction xs generalizing ys with
  | nil =>
      rw [List.eq_nil_of_length_eq_zero length]
      rfl
  | cons x xs ih =>
      cases ys with
      | nil => cases length
      | cons y ys =>
          obtain ⟨first, same, here⟩ := each 0 x rfl
          cases same
          have later := ih (Nat.succ.inj length) fun k => each (k + 1)
          rw [List.mapM_cons, here]
          change (xs.mapM f).bind _ = _
          rw [later]
          rfl

/-- The fault of a traversal that fails is that of one of the elements. -/
theorem exists_of_mapM_eq_error {e : ε} (failed : xs.mapM f = .error e) :
    ∃ x ∈ xs, f x = .error e := by
  induction xs with
  | nil => cases failed
  | cons x xs ih =>
      rw [List.mapM_cons] at failed
      rcases bind_eq_error_iff.1 failed with here | ⟨_, -, failed⟩
      · exact ⟨x, List.mem_cons_self, here⟩
      · rcases bind_eq_error_iff.1 failed with rest | ⟨_, -, failed⟩
        · obtain ⟨source, listed, there⟩ := ih rest
          exact ⟨source, List.mem_cons_of_mem x listed, there⟩
        · cases failed

end Row

end Discern
