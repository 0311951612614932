import Discern.Stream.Basic

/-!
# Replay buffers

A buffered stream makes a reader replayable by keeping what was read.  A limit
bounds what it keeps: once a request would take the kept bytes past the limit, they
are dropped, and from then on the stream can be read but not rewound.
-/

namespace Discern

/-- **A reader with what was read from it.**  The next byte to hand out is that at
`position`; it comes from the reader when all kept bytes were handed out. -/
structure Buffered (σ : Type) where
  inner : σ
  kept : Array UInt8
  position : Nat
  limit : Option Nat
  overflowed : Bool
deriving Inhabited

namespace Buffered

variable {σ : Type}

/-- A reader of which nothing has been read. -/
def start (inner : σ) (limit : Option Nat) : Buffered σ :=
  { inner, kept := #[], position := 0, limit, overflowed := false }

/-- The kept bytes that are still to be handed out. -/
def ahead (s : Buffered σ) : Nat := s.kept.size - s.position

/-- Whether the kept bytes and `n` more are within the limit. -/
def fits (s : Buffered σ) (n : Nat) : Bool :=
  match s.limit with
  | some limit => s.kept.size + n ≤ limit
  | none => true

/-- Keep bytes that were read, or drop everything where they do not fit. -/
def keep (s : Buffered σ) (bytes : Bytes) : Buffered σ :=
  if bytes.isEmpty || s.overflowed then s
  else if s.fits bytes.length then
    let kept := s.kept ++ bytes
    { s with kept, position := kept.size }
  else { s with kept := #[], position := 0, overflowed := true }

/-- Hand out kept bytes, or read. -/
def read (reader : Reader σ) (n : Nat) (s : Buffered σ) : Except Fault Bytes × Buffered σ :=
  if s.position < s.kept.size then
    let stop := min (s.position + n) s.kept.size
    (.ok (s.kept.extract s.position stop).toList, { s with position := stop })
  else
    match reader.read n s.inner with
    | (.ok bytes, inner) => (.ok bytes, { s with inner }.keep bytes)
    | (.error fault, inner) => (.error fault, { s with inner })

/-- Go back to the first kept byte, if none was dropped. -/
def rewind (s : Buffered σ) : Except Fault Unit × Buffered σ :=
  if s.overflowed then (.error .limitExceeded, s) else (.ok (), { s with position := 0 })

@[simp] theorem inner_keep (s : Buffered σ) (bytes : Bytes) : (s.keep bytes).inner = s.inner := by
  unfold keep
  split
  · rfl
  · split <;> rfl

/-- Nothing that was just read waits to be handed out again. -/
theorem ahead_keep (s : Buffered σ) (bytes : Bytes) (h : s.kept.size ≤ s.position) :
    (s.keep bytes).ahead = 0 := by
  unfold keep
  split
  · simp only [ahead]
    omega
  · split <;> simp [ahead]

theorem taken_read_le (reader : Reader σ) (n : Nat) (s : Buffered σ) :
    taken (read reader n s).1 ≤ n := by
  unfold read
  split
  · simp only [taken_ok, Array.length_toList, Array.size_extract]
    omega
  · have := reader.taken_le n s.inner
    split <;> simp_all

theorem read_spends (reader : Reader σ) (n : Nat) (s : Buffered σ) :
    taken (read reader n s).1
        + ((read reader n s).2.ahead + reader.supply (read reader n s).2.inner)
      ≤ s.ahead + reader.supply s.inner := by
  unfold read
  split
  · simp only [taken_ok, Array.length_toList, Array.size_extract, ahead]
    omega
  · rename_i h
    have := reader.spends n s.inner
    split
    · rename_i bytes inner hr
      simp only [hr, taken_ok] at this
      simp only [taken_ok, inner_keep]
      rw [ahead_keep _ _ (by simpa using h)]
      omega
    · rename_i fault inner hr
      simp only [hr, taken_error] at this
      simp only [taken_error, ahead]
      omega

/-- **The kind of buffered streams over a reader.** -/
def kind (reader : Reader σ) : StreamKind (Buffered σ) where
  read := read reader
  supply s := s.ahead + reader.supply s.inner
  taken_le := taken_read_le reader
  spends := read_spends reader
  rewind := rewind
  limit l s := { s with limit := l }

end Buffered

/-- **A replayable stream over a reader.** -/
def ByteStream.buffered {σ : Type} (reader : Reader σ) (state : σ) (limit : Option Nat) :
    ByteStream :=
  ⟨Buffered.kind reader, Buffered.start state limit⟩

end Discern
