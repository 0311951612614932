import Discern.Deflate.Block

/-!
# Inflation

`Inflation.run` unpacks compressed data from a queue of bits, one piece after the
other, and stops where the data ends, where the queue ends, where the data is
corrupt, or where its output has passed an edge.  Everything it has unpacked is kept,
since copies may reach back to it; a copy from before the beginning writes zeros.
-/

namespace Discern.Deflate

/-- **Where inflation stands** between two pieces: in a block, between two blocks, or
after the last one. -/
inductive Phase where
  | inside (block : Block)
  | between
  | done
deriving Inhabited

/-- Why a run of inflation has stopped. -/
inductive Halt where
  | full
  | short
  | corrupt
  | done
deriving DecidableEq, Inhabited

/-- **Data on its way to be unpacked,** with everything that was unpacked. -/
structure Inflation where
  phase : Phase
  last : Bool
  history : Array UInt8
deriving Inhabited

namespace Inflation

def fresh : Inflation := { phase := .between, last := false, history := #[] }

/-- Write a copy of earlier bytes. -/
def copy (distance : Nat) : (length : Nat) → (history : Array UInt8) → Array UInt8
  | 0, history => history
  | length + 1, history =>
    let byte := if distance ≤ history.size then (history[history.size - distance]?).getD 0 else 0
    copy distance length (history.push byte)

/-- Where the data goes on after a block. -/
def afterBlock (s : Inflation) : Inflation :=
  { s with phase := if s.last then .done else .between }

/-- Whether all data was unpacked. -/
def isDone (s : Inflation) : Bool :=
  match s.phase with
  | .done => true
  | _ => false

/-- **What comes next in the data.** -/
inductive Item where
  | block (last : Bool) (block : Block)
  | piece (piece : Piece)

/-- Read what comes next in a phase.  Nothing comes after the last block. -/
def next : Phase → BitScan Item
  | .done => BitScan.corrupt
  | .between => do
    let (last, block) ← Block.begin
    return .block last block
  | .inside (.stored 0) => return .piece .close
  | .inside (.stored (_ + 1)) => do return .piece (.byte (← BitScan.bits 8).toUInt8)
  | .inside (.coded pieces distances) => do return .piece (← Block.piece pieces distances)

/-- The phase after a byte. -/
def Phase.afterByte : Phase → Phase
  | .inside (.stored (left + 1)) => .inside (.stored left)
  | phase => phase

/-- **Unpack what was read.** -/
def write (s : Inflation) : Item → Inflation
  | .block last block => { s with last, phase := .inside block }
  | .piece (.byte byte) =>
    { s with phase := Phase.afterByte s.phase, history := s.history.push byte }
  | .piece (.copy length distance _) =>
    { s with history := copy distance length s.history }
  | .piece .close => s.afterBlock

/-- Steps that may follow without taking anything off the queue. -/
def rank (s : Inflation) : Nat :=
  match s.phase with
  | .inside (.stored 0) => 1
  | _ => 0

theorem size_copy (distance length : Nat) (history : Array UInt8) :
    (copy distance length history).size = history.size + length := by
  induction length generalizing history with
  | zero => rfl
  | succ length ih =>
    simp only [copy, ih, Array.size_push]
    omega

theorem size_write (s : Inflation) (item : Item) :
    (s.write item).history.size ≤ s.history.size + 258 := by
  unfold write
  split
  · exact Nat.le_add_right _ _
  · simp only [Array.size_push]
    omega
  · simp only [size_copy]
    omega
  · exact Nat.le_add_right _ _

/-- **What comes next takes bits off the queue,** or it is the end of an empty block,
which writes nothing. -/
theorem next_spends {phase : Phase} {item : Item} {q q' : BitQueue}
    (h : next phase q = .ok (item, q')) :
    q'.size < q.size ∨ (q' = q ∧ phase = .inside (.stored 0) ∧ item = .piece .close) := by
  cases phase with
  | done => cases h
  | between => exact .inl ((Block.spends_begin.bind fun r => BitScan.spends_pure _) q _ _ h)
  | inside block =>
    cases block with
    | stored left =>
      cases left with
      | zero =>
        cases h
        exact .inr ⟨rfl, rfl, rfl⟩
      | succ left =>
        have := ((BitScan.spends_bits 8).bind fun r => BitScan.spends_pure _) q _ _ h
        exact .inl (by omega)
    | coded pieces distances =>
      exact .inl (((Block.spends_piece _ _).bind fun r => BitScan.spends_pure _) q _ _ h)

/-- A block that ends is no empty block any more. -/
theorem rank_close {s : Inflation} (h : s.phase = .inside (.stored 0)) :
    (s.write (.piece .close)).rank < s.rank := by
  obtain ⟨phase, last, history⟩ := s
  cases h
  cases last <;> exact Nat.zero_lt_one

/-- Whether nothing more is to be unpacked before the output up to `edge` has been
handed out.  A coded piece is unpacked to see that it does not fit; a stored byte is
left in the queue. -/
def isFull (edge : Nat) (s : Inflation) : Bool :=
  edge < s.history.size ||
    (edge == s.history.size &&
      match s.phase with
      | .inside (.stored (_ + 1)) => true
      | _ => false)

/-- **Unpack** until the output has passed `edge` or nothing more can be unpacked. -/
def run (edge : Nat) (s : Inflation) (q : BitQueue) : Inflation × BitQueue × Halt :=
  if _hd : s.isDone then (s, q, .done)
  else if s.isFull edge then (s, q, .full)
  else
    match _h : next s.phase q with
    | .ok (item, q') => run edge (s.write item) q'
    | .error .short => (s, q, .short)
    | .error .corrupt => (s, q, .corrupt)
termination_by (q.size, s.rank)
decreasing_by
  rcases next_spends _h with hlt | ⟨rfl, hphase, rfl⟩
  · exact Prod.Lex.left _ _ hlt
  · exact Prod.Lex.right _ (rank_close hphase)

/-- A run is paid for by the bits it takes off the queue. -/
theorem run_writes (edge : Nat) (s : Inflation) (q : BitQueue) :
    (run edge s q).1.history.size + 258 * (run edge s q).2.1.size
      ≤ s.history.size + 258 * q.size := by
  fun_induction run edge s q with
  | case1 s q hd => exact Nat.le_refl _
  | case2 s q hd hf => exact Nat.le_refl _
  | case3 s q hd hf item q' h ih =>
    rcases next_spends h with hlt | ⟨rfl, _, rfl⟩
    · have := size_write s item
      omega
    · exact ih
  | case4 s q hd hf h => exact Nat.le_refl _
  | case5 s q hd hf h => exact Nat.le_refl _

/-- A run adds nothing to the queue. -/
theorem run_size_le (edge : Nat) (s : Inflation) (q : BitQueue) :
    (run edge s q).2.1.size ≤ q.size := by
  fun_induction run edge s q with
  | case1 s q hd => exact Nat.le_refl _
  | case2 s q hd hf => exact Nat.le_refl _
  | case3 s q hd hf item q' h ih =>
    rcases next_spends h with hlt | ⟨rfl, _, _⟩
    · omega
    · exact ih
  | case4 s q hd hf h => exact Nat.le_refl _
  | case5 s q hd hf h => exact Nat.le_refl _

end Inflation

end Discern.Deflate
