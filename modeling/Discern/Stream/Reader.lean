import Discern.Bytes
import Discern.Stream.Fault

/-!
# Readers

A reader answers a request for bytes with some of them, with none at the end, or
with a fault.  How many bytes are still to come is bounded by the `supply` of its
state, so that reading to the end comes to an end.  A supply is never looked at
when bytes are read.
-/

namespace Discern

/-- How many bytes a request has brought. -/
def taken : Except Fault Bytes → Nat
  | .ok bytes => bytes.length
  | .error _ => 0

@[simp] theorem taken_ok (bytes : Bytes) : taken (.ok bytes) = bytes.length := rfl

@[simp] theorem taken_error (fault : Fault) : taken (.error fault) = 0 := rfl

/-- **How one kind of source is read.**  A request for `n` bytes brings at most `n`
of them, and what it brings is taken off the supply. -/
structure Reader (σ : Type) where
  read : Nat → σ → Except Fault Bytes × σ
  supply : σ → Nat
  taken_le : ∀ n s, taken (read n s).1 ≤ n
  spends : ∀ n s, taken (read n s).1 + supply (read n s).2 ≤ supply s

namespace Reader

variable {σ : Type} (reader : Reader σ)

/-- The bytes that one request asks for when more are wanted. -/
def block : Nat := 8192

/-- How much the next request asks for when `limit` bytes are wanted in all. -/
def request : Option Nat → Nat
  | some limit => min limit block
  | none => block

/-- **Read up to a limit,** or to the end without one.  A fault hides the bytes
before it. -/
def readUpTo (limit : Option Nat) (s : σ) : Except Fault Bytes × σ :=
  if limit = some 0 then (.ok [], s)
  else
    match _h : reader.read (request limit) s with
    | (.error fault, s') => (.error fault, s')
    | (.ok [], s') => (.ok [], s')
    | (.ok (b :: bytes), s') =>
      match readUpTo (limit.map (· - (bytes.length + 1))) s' with
      | (.ok rest, s'') => (.ok (b :: bytes ++ rest), s'')
      | (.error fault, s'') => (.error fault, s'')
termination_by reader.supply s
decreasing_by
  have := reader.spends (request limit) s
  simp only [_h, taken_ok, List.length_cons] at this
  omega

/-- **A content that is read from its front.** -/
def ofBytes : Reader Bytes where
  read n rest := (.ok (rest.take n), rest.drop n)
  supply := List.length
  taken_le n rest := List.length_take_le n rest
  spends n rest := by
    simp only [taken_ok, List.length_take, List.length_drop]
    omega

end Reader

end Discern
