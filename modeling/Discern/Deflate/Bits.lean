import Discern.Bytes

/-!
# Bits of compressed data

Compressed data is read bit by bit, in each byte from the lowest bit on.  A
`BitScan` reads a value from the front of a `BitQueue`; it is `short` where the
queue ends too early, so that it can be tried again when there are more bytes, and
`corrupt` where no more bytes can help.

`BitScan.Spends p k` says that `p` takes at least `k` bits off the queue.
-/

namespace Discern.Deflate

/-- Why nothing could be read. -/
inductive Stop where
  | short
  | corrupt
deriving DecidableEq, Inhabited

/-- **Data to be read bit by bit:** the spare bits of a byte that was begun, then
whole bytes. -/
structure BitQueue where
  spare : List Bool
  bytes : Bytes
deriving DecidableEq, Inhabited

/-- The number of bits in a queue. -/
def BitQueue.size (q : BitQueue) : Nat := q.spare.length + 8 * q.bytes.length

/-- Add whole bytes at the end. -/
def BitQueue.append (q : BitQueue) (bytes : Bytes) : BitQueue :=
  { q with bytes := q.bytes ++ bytes }

@[simp] theorem BitQueue.size_append (q : BitQueue) (bytes : Bytes) :
    (q.append bytes).size = q.size + 8 * bytes.length := by
  simp only [append, size, List.length_append]
  omega

/-- **A reader of the front of a queue.** -/
abbrev BitScan := StateT BitQueue (Except Stop)

namespace BitScan

variable {α β : Type}

/-- Nothing can be read here. -/
def corrupt : BitScan α := fun _ => .error .corrupt

/-- The next bit. -/
def bit : BitScan Bool := fun q =>
  match q with
  | ⟨b :: spare, bytes⟩ => .ok (b, ⟨spare, bytes⟩)
  | ⟨[], []⟩ => .error .short
  | ⟨[], byte :: bytes⟩ =>
    let n := byte.toNat
    .ok (n.testBit 0, ⟨[n.testBit 1, n.testBit 2, n.testBit 3, n.testBit 4, n.testBit 5,
      n.testBit 6, n.testBit 7], bytes⟩)

/-- The number that the next bits write, the lowest first. -/
def bits : Nat → BitScan Nat
  | 0 => return 0
  | count + 1 => do
    let b ← bit
    return b.toNat + 2 * (← bits count)

/-- Drop the spare bits of a byte that was begun. -/
def align : BitScan Unit := fun q => .ok ((), ⟨[], q.bytes⟩)

/-- The next bytes. -/
def bytes : Nat → BitScan Bytes
  | 0 => return []
  | count + 1 => do
    let byte ← bits 8
    return byte.toUInt8 :: (← bytes count)

/-- **A scan that takes at least `k` bits** off every queue it reads from. -/
def Spends (p : BitScan α) (k : Nat) : Prop :=
  ∀ q a rest, p q = .ok (a, rest) → rest.size + k ≤ q.size

theorem Spends.mono {p : BitScan α} {k m : Nat} (h : Spends p m) (hk : k ≤ m) : Spends p k :=
  fun q a rest hp => by
    have := h q a rest hp
    omega

theorem spends_pure (a : α) : Spends (pure a) 0 := fun q b rest h => by
  cases h
  exact Nat.le_refl _

theorem spends_corrupt (k : Nat) : Spends (corrupt : BitScan α) k := fun q b rest h => by
  cases h

theorem Spends.zero {p : BitScan α} {k : Nat} (h : Spends p k) : Spends p 0 :=
  h.mono (Nat.zero_le k)

theorem Spends.add {p : BitScan α} {f : α → BitScan β} {k m : Nat} (hp : Spends p k)
    (hf : ∀ a, Spends (f a) m) : Spends (p >>= f) (k + m) := fun q b rest h => by
  change (p q >>= fun r => f r.1 r.2) = .ok (b, rest) at h
  cases hq : p q with
  | error e =>
    rw [hq] at h
    cases h
  | ok r =>
    rw [hq] at h
    have h1 := hp q r.1 r.2 hq
    have h2 := hf r.1 r.2 b rest h
    omega

theorem Spends.bind {p : BitScan α} {f : α → BitScan β} {k : Nat} (hp : Spends p k)
    (hf : ∀ a, Spends (f a) 0) : Spends (p >>= f) k :=
  hp.add hf

theorem spends_bit : Spends bit 1 := fun q a rest h => by
  unfold bit at h
  split at h
  · cases h
    simp only [BitQueue.size, List.length_cons]
    omega
  · cases h
  · cases h
    simp only [BitQueue.size, List.length_cons, List.length_nil]
    omega

theorem spends_bits (count : Nat) : Spends (bits count) count := by
  induction count with
  | zero => exact spends_pure 0
  | succ count ih =>
    have := spends_bit.add fun b => ih.bind fun n => spends_pure (b.toNat + 2 * n)
    exact this.mono (by omega)

theorem spends_align : Spends align 0 := fun q a rest h => by
  cases h
  simp [BitQueue.size]

theorem spends_bytes (count : Nat) : Spends (bytes count) (8 * count) := by
  induction count with
  | zero => exact spends_pure []
  | succ count ih =>
    have := (spends_bits 8).add fun n => ih.bind fun bs => spends_pure (n.toUInt8 :: bs)
    exact this.mono (by omega)

end BitScan

end Discern.Deflate
