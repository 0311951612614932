import Discern.Deflate.Code

/-!
# Blocks of compressed data

Data is compressed in blocks.  A block is stored as it is, or coded: then it is a
run of pieces, each a byte or a copy of earlier bytes, written with one code for
bytes and lengths and one for distances.  The codes are fixed ones, or they stand
in front of the block, themselves coded.
-/

namespace Discern.Deflate

/-- **A piece of a coded block.** -/
inductive Piece where
  | byte (byte : UInt8)
  /-- The `length` bytes that begin `distance` bytes back. -/
  | copy (length distance : Nat) (length_le : length ≤ 258)
  | close

/-- **A block that has been begun.** -/
inductive Block where
  | stored (left : Nat)
  | coded (pieces distances : Code)
deriving Inhabited

namespace Block

open BitScan

/-- The least length of each length symbol from 257 on, and how many bits are added
to it. -/
def lengths : List (Nat × Nat) :=
  [(3, 0), (4, 0), (5, 0), (6, 0), (7, 0), (8, 0), (9, 0), (10, 0), (11, 1), (13, 1), (15, 1),
    (17, 1), (19, 2), (23, 2), (27, 2), (31, 2), (35, 3), (43, 3), (51, 3), (59, 3), (67, 4),
    (83, 4), (99, 4), (115, 4), (131, 5), (163, 5), (195, 5), (227, 5), (258, 0)]

/-- The least distance of each distance symbol, and how many bits are added to it. -/
def distances : List (Nat × Nat) :=
  [(1, 0), (2, 0), (3, 0), (4, 0), (5, 1), (7, 1), (9, 2), (13, 2), (17, 3), (25, 3), (33, 4),
    (49, 4), (65, 5), (97, 5), (129, 6), (193, 6), (257, 7), (385, 7), (513, 8), (769, 8),
    (1025, 9), (1537, 9), (2049, 10), (3073, 10), (4097, 11), (6145, 11), (8193, 12),
    (12289, 12), (16385, 13), (24577, 13)]

/-- The number that a symbol and its added bits write. -/
def measure (table : List (Nat × Nat)) (symbol : Nat) : BitScan Nat :=
  match table[symbol]? with
  | some (least, extra) => do return least + (← bits extra)
  | none => corrupt

/-- **The next piece** of a coded block.  No length symbol writes more than 258. -/
def piece (pieces distanceCode : Code) : BitScan Piece := do
  let symbol ← pieces.read
  if symbol < 256 then return .byte symbol.toUInt8
  else if symbol = 256 then return .close
  else do
    let length ← measure lengths (symbol - 257)
    let distance ← measure distances (← distanceCode.read)
    if h : length ≤ 258 then return .copy length distance h else corrupt

/-! ## The beginning of a block -/

/-- The code for bytes and lengths of a block without codes of its own. -/
def fixedPieces : Code :=
  .ofLengths (List.replicate 144 8 ++ List.replicate 112 9 ++ List.replicate 24 7
    ++ List.replicate 8 8)

/-- The code for distances of a block without codes of its own. -/
def fixedDistances : Code := .ofLengths (List.replicate 32 5)

/-- The order in which the lengths for the code of lengths are written. -/
def lengthOrder : List Nat :=
  [16, 17, 18, 0, 8, 7, 9, 6, 10, 5, 11, 4, 12, 3, 13, 2, 14, 1, 15]

/-- What a symbol of the code of lengths adds to the lengths that were read. -/
def addLengths (done : Array Nat) (symbol : Nat) : BitScan (Array Nat) :=
  match symbol with
  | 16 =>
    match done.back? with
    | some length => do return done ++ List.replicate (3 + (← bits 2)) length
    | none => corrupt
  | 17 => do return done ++ List.replicate (3 + (← bits 3)) 0
  | 18 => do return done ++ List.replicate (11 + (← bits 7)) 0
  | length => return done.push length

/-- Exactly `total` lengths, after those in `done`.  Every step adds one at least. -/
def readLengths (code : Code) (total : Nat) : (steps : Nat) → (done : Array Nat) →
    BitScan (Array Nat)
  | 0, done => if done.size = total then return done else corrupt
  | steps + 1, done =>
    if done.size < total then do
      readLengths code total steps (← addLengths done (← code.read))
    else if done.size = total then return done
    else corrupt

/-- A code that can be used: complete, or of no more than one word. -/
def usable (code : Code) : BitScan Code :=
  if code.isComplete || code.size ≤ 1 then return code else corrupt

/-- The lengths of the code of lengths: those that are written, in their order. -/
def lengthsOfOrder (written : List Nat) : List Nat :=
  (List.range 19).map fun symbol =>
    match (lengthOrder.zip written).find? (·.1 == symbol) with
    | some (_, length) => length
    | none => 0

/-- The lengths of three bits each that are written for the code of lengths. -/
def shortLengths : Nat → BitScan (List Nat)
  | 0 => return []
  | count + 1 => do
    let length ← bits 3
    return length :: (← shortLengths count)

/-- The codes of a block that has codes of its own. -/
def ownCodes : BitScan Block := do
  let pieceCount := 257 + (← bits 5)
  let distanceCount := 1 + (← bits 5)
  let written := 4 + (← bits 4)
  if 286 < pieceCount ∨ 30 < distanceCount then corrupt
  else do
    let code := Code.ofLengths (lengthsOfOrder (← shortLengths written))
    if !code.isComplete then corrupt
    else do
      let total := pieceCount + distanceCount
      let lengths := (← readLengths code total total #[]).toList
      let pieces ← usable (.ofLengths (lengths.take pieceCount))
      let distances ← usable (.ofLengths (lengths.drop pieceCount))
      return .coded pieces distances

/-- The length of a stored block, which is written twice, once inverted. -/
def storedBlock : BitScan Block := do
  align
  let length ← bits 16
  let inverted ← bits 16
  if length + inverted = 0xFFFF then return .stored length else corrupt

/-- A block of one of the three forms there are. -/
def ofForm : Nat → BitScan Block
  | 0 => storedBlock
  | 1 => return .coded fixedPieces fixedDistances
  | 2 => ownCodes
  | _ => corrupt

/-- **The beginning of a block,** and whether it is the last one. -/
def begin : BitScan (Bool × Block) := do
  let last ← bit
  return (last, ← ofForm (← bits 2))

/-! ## What is taken off the queue -/

theorem spends_measure (table : List (Nat × Nat)) (symbol : Nat) :
    Spends (measure table symbol) 0 := by
  unfold measure
  split
  · exact (spends_bits _).zero.bind fun n => spends_pure _
  · exact spends_corrupt 0

/-- A piece has at least one bit. -/
theorem spends_piece (pieces distances : Code) : Spends (piece pieces distances) 1 := by
  refine (Code.spends_read pieces).bind fun symbol => ?_
  split
  · exact spends_pure _
  · split
    · exact spends_pure _
    · refine (spends_measure _ _).bind fun length => ?_
      refine (Code.spends_read distances).zero.bind fun symbol => ?_
      refine (spends_measure _ _).bind fun distance => ?_
      split
      · exact spends_pure _
      · exact spends_corrupt 0

theorem spends_addLengths (done : Array Nat) (symbol : Nat) :
    Spends (addLengths done symbol) 0 := by
  unfold addLengths
  split
  · split
    · exact (spends_bits 2).zero.bind fun n => spends_pure _
    · exact spends_corrupt 0
  · exact (spends_bits 3).zero.bind fun n => spends_pure _
  · exact (spends_bits 7).zero.bind fun n => spends_pure _
  · exact spends_pure _

theorem spends_readLengths (code : Code) (total steps : Nat) (done : Array Nat) :
    Spends (readLengths code total steps done) 0 := by
  induction steps generalizing done with
  | zero =>
    unfold readLengths
    split
    · exact spends_pure _
    · exact spends_corrupt 0
  | succ steps ih =>
    unfold readLengths
    split
    · refine (Code.spends_read code).zero.bind fun symbol => ?_
      exact (spends_addLengths done symbol).bind fun done => ih done
    · split
      · exact spends_pure _
      · exact spends_corrupt 0

theorem spends_usable (code : Code) : Spends (usable code) 0 := by
  unfold usable
  split
  · exact spends_pure _
  · exact spends_corrupt 0

theorem spends_shortLengths (count : Nat) : Spends (shortLengths count) 0 := by
  induction count with
  | zero => exact spends_pure _
  | succ count ih =>
    exact (spends_bits 3).zero.bind fun length => ih.bind fun rest => spends_pure _

theorem spends_ownCodes : Spends ownCodes 0 := by
  refine (spends_bits 5).zero.bind fun a => ?_
  refine (spends_bits 5).zero.bind fun b => ?_
  refine (spends_bits 4).zero.bind fun c => ?_
  dsimp only
  split
  · exact spends_corrupt 0
  · refine (spends_shortLengths _).bind fun lengths => ?_
    split
    · exact spends_corrupt 0
    · refine (spends_readLengths _ _ _ _).bind fun lengths => ?_
      refine (spends_usable _).bind fun pieces => ?_
      exact (spends_usable _).bind fun distances => spends_pure _

theorem spends_storedBlock : Spends storedBlock 0 := by
  refine spends_align.bind fun _ => ?_
  refine (spends_bits 16).zero.bind fun length => ?_
  refine (spends_bits 16).zero.bind fun inverted => ?_
  split
  · exact spends_pure _
  · exact spends_corrupt 0

theorem spends_ofForm (form : Nat) : Spends (ofForm form) 0 := by
  unfold ofForm
  split
  · exact spends_storedBlock
  · exact spends_pure _
  · exact spends_ownCodes
  · exact spends_corrupt 0

/-- The beginning of a block has at least one bit. -/
theorem spends_begin : Spends begin 1 :=
  spends_bit.bind fun _ => (spends_bits 2).zero.bind fun form =>
    (spends_ofForm form).bind fun _ => spends_pure _

end Block

end Discern.Deflate
