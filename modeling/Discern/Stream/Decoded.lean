import Discern.Decoder.Basic
import Discern.Stream.Basic

/-!
# Decoded streams

A decoded stream shows the decoded content of another stream.  Decoding begins
with the first request; a rewind throws the decoder's work away and rewinds the
stream below.

A limit on the decoded stream becomes a budget of encoded bytes, which the decoder
cannot overdraw: once the budget is spent it sees the end of its input, and the
stream is `truncated`.  A fault that the decoder then reports stems from the cut, and
reads as the end of the decoded stream.
-/

namespace Discern

/-- **A stream with a budget** for what a decoder may read of it. -/
structure Rationed (β : Type) where
  base : β
  budget : Option Nat
  consumed : Nat
  truncated : Bool
deriving Inhabited

namespace Rationed

variable {β : Type}

/-- How many of `n` bytes the budget allows. -/
def allowance (s : Rationed β) (n : Nat) : Nat :=
  match s.budget with
  | some budget => min n (budget - s.consumed)
  | none => n

/-- A request, cut to the budget. -/
def read (reader : Reader β) (n : Nat) (s : Rationed β) : Except Fault Bytes × Rationed β :=
  let want := s.allowance n
  if want = 0 ∧ n ≠ 0 then (.ok [], { s with truncated := true })
  else
    match reader.read want s.base with
    | (.ok bytes, base) => (.ok bytes, { s with base, consumed := s.consumed + bytes.length })
    | (.error fault, base) => (.error fault, { s with base })

theorem allowance_le (s : Rationed β) (n : Nat) : s.allowance n ≤ n := by
  unfold allowance
  split
  · exact Nat.min_le_left _ _
  · exact Nat.le_refl n

theorem taken_read_le (below : Reader β) (n : Nat) (s : Rationed β) :
    taken (read below n s).1 ≤ n := by
  have hn := s.allowance_le n
  have ht := below.taken_le (s.allowance n) s.base
  unfold read
  simp only
  split
  · exact Nat.zero_le n
  · split <;> simp_all
    omega

theorem read_spends (below : Reader β) (n : Nat) (s : Rationed β) :
    taken (read below n s).1 + below.supply (read below n s).2.base ≤ below.supply s.base := by
  have ht := below.spends (s.allowance n) s.base
  unfold read
  simp only
  split
  · simp
  · split <;> simp_all

/-- **What a decoder sees of the stream below.** -/
def reader (below : Reader β) : Reader (Rationed β) where
  read := read below
  supply s := below.supply s.base
  taken_le := taken_read_le below
  spends := read_spends below

end Rationed

/-- **A decoded view of a stream.**  Without a `work` nothing has been decoded since
the last rewind. -/
structure Decoded (σ β : Type) where
  input : Rationed β
  work : Option σ

namespace Decoded

variable {β : Type} (d : Decoder)

/-- Serve a request, and let faults that stem from the cut pass for the end. -/
def serve (below : Reader β) (n : Nat) (work : d.machine.State) (input : Rationed β) :
    Except Fault Bytes × Decoded d.machine.State β :=
  let (result, work, input) := d.machine.serve n (Rationed.reader below) work input
  match result with
  | .ok bytes => (.ok bytes, ⟨input, some work⟩)
  | .error fault =>
    (if input.truncated then .ok [] else .error fault, ⟨input, some work⟩)

/-- Serve a request, after opening the input where that has not been done. -/
def read (below : Reader β) (n : Nat) (s : Decoded d.machine.State β) :
    Except Fault Bytes × Decoded d.machine.State β :=
  match s.work with
  | some work => serve d below n work s.input
  | none =>
    match d.machine.open? (Rationed.reader below) s.input with
    | (.ok (), work, input) => serve d below n work input
    | (.error fault, _, input) => (.error fault, ⟨input, none⟩)

/-- What a decoded view can still bring. -/
def supply (below : Reader β) (s : Decoded d.machine.State β) : Nat :=
  d.machine.books.worth (s.work.getD d.machine.fresh)
    + d.machine.books.rate * below.supply s.input.base

theorem serve_taken_le (below : Reader β) (n : Nat) (work : d.machine.State)
    (input : Rationed β) : taken (serve d below n work input).1 ≤ n := by
  have h : ∀ bytes, (d.machine.serve n (Rationed.reader below) work input).1 = .ok bytes →
      bytes.length ≤ n :=
    fun bytes => Machine.drive_answers (d.machine.serving_keeps n) (Rationed.reader below)
      (fun bytes => bytes.length ≤ n) (d.machine.serving_le n) work input
  unfold serve
  simp only
  split
  · rename_i bytes hr
    exact h bytes hr
  · split <;> simp

theorem serve_spends (below : Reader β) (n : Nat) (work : d.machine.State)
    (input : Rationed β) :
    taken (serve d below n work input).1 + supply d below (serve d below n work input).2
      ≤ d.machine.books.worth work + d.machine.books.rate * below.supply input.base := by
  have h := Machine.drive_spends (d.machine.serving_keeps n) (Rationed.reader below) work input
  change _ + (_ + _ * (below.supply _)) ≤ _ + _ * (below.supply _) at h
  unfold serve Machine.serve
  simp only
  split
  · rename_i bytes hr
    rw [hr] at h
    simpa [supply] using h
  · rename_i fault hr
    rw [hr] at h
    split <;> simpa [supply] using h

theorem open_spends (below : Reader β) (input : Rationed β) :
    d.machine.books.worth (d.machine.open? (Rationed.reader below) input).2.1
      + d.machine.books.rate
        * below.supply (d.machine.open? (Rationed.reader below) input).2.2.base
      ≤ d.machine.books.worth d.machine.fresh
        + d.machine.books.rate * below.supply input.base := by
  have h := Machine.drive_spends d.machine.opening_keeps (Rationed.reader below)
    d.machine.fresh input
  change _ + (_ + _ * (below.supply _)) ≤ _ + _ * (below.supply _) at h
  unfold Machine.open?
  omega

/-- **The kind of decoded streams** over a kind of streams. -/
def kind (below : StreamKind β) : StreamKind (Decoded d.machine.State β) where
  read := read d below.toReader
  supply := supply d below.toReader
  taken_le n s := by
    unfold read
    split
    · exact serve_taken_le ..
    · split
      · exact serve_taken_le ..
      · simp
  spends n s := by
    unfold read
    split
    · rename_i work hw
      have := serve_spends d below.toReader n work s.input
      simpa [supply, hw] using this
    · rename_i hw
      have ho := open_spends d below.toReader s.input
      split
      · rename_i work input h
        simp only [h] at ho
        have := serve_spends d below.toReader n work input
        simp only [supply, hw, Option.getD_none] at this ⊢
        omega
      · rename_i fault work input h
        rw [h] at ho
        simp only [supply, hw, Option.getD_none, taken_error]
        have hs := Machine.drive_supply_le d.machine.opening_keeps
          (Rationed.reader below.toReader) d.machine.fresh s.input
        rw [show Machine.drive _ _ _ _ _ _ _ = _ from h] at hs
        have hs : below.supply input.base ≤ below.supply s.input.base := hs
        have := Nat.mul_le_mul_left d.machine.books.rate hs
        omega
  rewind s :=
    let (result, base) := below.rewind s.input.base
    (result, ⟨{ s.input with base, consumed := 0, truncated := false }, none⟩)
  limit l s :=
    let budget := l.map d.outerLimit
    { s with input := { s.input with budget, base := below.limit budget s.input.base } }

end Decoded

/-- **The decoded view of a stream,** of which nothing has been read. -/
def ByteStream.decoded (base : ByteStream) (d : Decoder) : ByteStream :=
  ⟨Decoded.kind d base.kind,
    ⟨{ base := base.state, budget := none, consumed := 0, truncated := false }, none⟩⟩

end Discern
