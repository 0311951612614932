import Discern.Stream.Reader

/-!
# Decoding machines

A decoder works on demand.  Asked for bytes it makes moves: it pulls encoded bytes
from its input, thinks, and in the end answers.  A `Machine` lists the moves of a
decoder; `Machine.drive` carries them out on the input.

That a machine comes to an answer is part of its type.  Each of its states has a
`patience`, which shrinks when it thinks and when a pull brings nothing, and a
`worth`, which bounds what it can still answer from what it has pulled, `rate`
bytes for each encoded one.
-/

namespace Discern

/-- **What a machine does next.** -/
inductive Move (σ α : Type) where
  | answer (result : Except Fault α) (next : σ)
  | think (next : σ)
  | pull (amount : Nat) (next : Except Fault Bytes → σ)

/-- **What moves cost.** -/
structure Books (σ : Type) where
  patience : σ → Nat
  worth : σ → Nat
  rate : Nat

/-- **A move that keeps the books** of a machine in state `s`, where an answer is as
large as `size` says. -/
def Books.Keeps {σ α : Type} (books : Books σ) (size : α → Nat) (s : σ) : Move σ α → Prop
  | .answer (.ok a) next => size a + books.worth next ≤ books.worth s
  | .answer (.error _) next => books.worth next ≤ books.worth s
  | .think next => books.patience next < books.patience s ∧ books.worth next ≤ books.worth s
  | .pull _ next =>
    ∀ got, books.worth (next got) ≤ books.worth s + books.rate * taken got ∧
      (taken got = 0 → books.patience (next got) < books.patience s)

/-- **A decoder at work.**  It opens its input first and then serves requests for
at most so many bytes. -/
structure Machine where
  {State : Type}
  fresh : State
  opening : State → Move State Unit
  serving : Nat → State → Move State Bytes
  books : Books State
  opening_keeps : ∀ s, books.Keeps (fun _ => 0) s (opening s)
  serving_keeps : ∀ n s, books.Keeps List.length s (serving n s)
  serving_le : ∀ n s bytes next, serving n s = .answer (.ok bytes) next → bytes.length ≤ n

namespace Machine

section

variable {σ α β : Type} (books : Books σ) (size : α → Nat) (step : σ → Move σ α)

/-- **Carry out moves** on an input until there is an answer. -/
def drive (keeps : ∀ s, books.Keeps size s (step s)) (input : Reader β) (s : σ) (b : β) :
    Except Fault α × σ × β :=
  match _h : step s with
  | .answer result next => (result, next, b)
  | .think next => drive keeps input next b
  | .pull amount next =>
    match _hr : input.read amount b with
    | (got, rest) => drive keeps input (next got) rest
termination_by (input.supply b, books.patience s)
decreasing_by
  · have := keeps s
    rw [_h] at this
    exact Prod.Lex.right _ this.1
  · have hk := keeps s
    rw [_h] at hk
    have hs := input.spends amount b
    simp only [_hr] at hs
    by_cases h0 : taken got = 0
    · rcases Nat.lt_or_eq_of_le (by omega : input.supply rest ≤ input.supply b) with hlt | heq
      · exact Prod.Lex.left _ _ hlt
      · rw [heq]
        exact Prod.Lex.right _ ((hk got).2 h0)
    · exact Prod.Lex.left _ _ (by omega)

variable {books size step} (keeps : ∀ s, books.Keeps size s (step s)) (input : Reader β)

/-- What a run of moves answers is paid for by what the machine was worth and by
what it took from its input. -/
theorem drive_spends (s : σ) (b : β) :
    (match (drive books size step keeps input s b).1 with
      | .ok a => size a
      | .error _ => 0)
      + (books.worth (drive books size step keeps input s b).2.1
        + books.rate * input.supply (drive books size step keeps input s b).2.2)
      ≤ books.worth s + books.rate * input.supply b := by
  fun_induction drive books size step keeps input s b with
  | case1 s b result next h =>
    have := keeps s
    rw [h] at this
    cases result with
    | ok a =>
      simp only [Books.Keeps] at this ⊢
      omega
    | error fault =>
      simp only [Books.Keeps] at this ⊢
      omega
  | case2 s b next h ih =>
    have := keeps s
    rw [h] at this
    have := this.2
    omega
  | case3 s b amount next h got rest hread ih =>
    have hk := keeps s
    rw [h] at hk
    have hw := (hk got).1
    have hs := input.spends amount b
    simp only [hread] at hs
    have : books.rate * (taken got + input.supply rest) ≤ books.rate * input.supply b :=
      Nat.mul_le_mul_left _ hs
    rw [Nat.mul_add] at this
    omega

/-- No run adds to the supply of its input. -/
theorem drive_supply_le (s : σ) (b : β) :
    input.supply (drive books size step keeps input s b).2.2 ≤ input.supply b := by
  fun_induction drive books size step keeps input s b with
  | case1 s b result next h => exact Nat.le_refl _
  | case2 s b next h ih => exact ih
  | case3 s b amount next h got rest hread ih =>
    have hs := input.spends amount b
    simp only [hread] at hs
    omega

/-- What a run answers is what one of its moves answers. -/
theorem drive_answers (P : α → Prop) (hP : ∀ s a next, step s = .answer (.ok a) next → P a)
    (s : σ) (b : β) {a : α} (h : (drive books size step keeps input s b).1 = .ok a) : P a := by
  fun_induction drive books size step keeps input s b with
  | case1 s b result next hs =>
    subst h
    exact hP s a next hs
  | case2 s b next hs ih => exact ih h
  | case3 s b amount next hs got rest hread ih => exact ih h

end

/-- **Open the input** of a machine. -/
def open? {β : Type} (m : Machine) (input : Reader β) (b : β) : Except Fault Unit × m.State × β :=
  drive m.books _ m.opening m.opening_keeps input m.fresh b

/-- **Serve a request** for at most `n` bytes. -/
def serve {β : Type} (m : Machine) (n : Nat) (input : Reader β) (s : m.State) (b : β) :
    Except Fault Bytes × m.State × β :=
  drive m.books _ (m.serving n) (m.serving_keeps n) input s b

end Machine

end Discern
