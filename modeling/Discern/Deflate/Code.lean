import Discern.Deflate.Bits

/-!
# Canonical codes

A code gives words of up to fifteen bits to symbols and is determined by the length
of each symbol's word: shorter words come first, words of one length are numbered in
the order of their symbols, and a symbol of length zero has no word.
-/

namespace Discern.Deflate

/-- **A code.**  `counts` holds how many words there are of each length from one on,
and `symbols` the symbols in the order of their words. -/
structure Code where
  counts : List Nat
  symbols : Array Nat
deriving Inhabited

namespace Code

/-- The greatest length of a word. -/
def longest : Nat := 15

/-- **The code with the given lengths,** one for each symbol. -/
def ofLengths (lengths : List Nat) : Code :=
  let widths := (List.range longest).map (· + 1)
  { counts := widths.map fun width => lengths.count width
    symbols := (widths.flatMap fun width =>
      lengths.zipIdx.filterMap fun (length, symbol) =>
        if length = width then some symbol else none).toArray }

/-- The number of words. -/
def size (code : Code) : Nat := code.counts.foldl (· + ·) 0

/-- The share of all words of the greatest length that begin with a word of the
code, in units of one such word. -/
def share (code : Code) : Nat :=
  code.counts.zipIdx.foldl (fun total (count, i) => total + count * Nat.pow 2 (longest - 1 - i)) 0

/-- Whether every long enough run of bits begins with exactly one word. -/
def isComplete (code : Code) : Bool := code.share == Nat.pow 2 longest

/-- **The symbol whose word comes next.** -/
def read (code : Code) : BitScan Nat :=
  go code.counts 0 0 0
where
  /-- Here `word` has been read, `first` would be the first word of its length, and
  `index` words are shorter; all but `index` wait for one more bit. -/
  go : (counts : List Nat) → (word first index : Nat) → BitScan Nat
    | [], _, _, _ => BitScan.corrupt
    | count :: counts, word, first, index => do
      let b ← BitScan.bit
      let word := word + b.toNat
      if word < first + count then
        match code.symbols[index + (word - first)]? with
        | some symbol => return symbol
        | none => BitScan.corrupt
      else go counts (2 * word) (2 * (first + count)) (index + count)

theorem spends_go (code : Code) (counts : List Nat) (word first index : Nat) :
    BitScan.Spends (read.go code counts word first index) 1 := by
  induction counts generalizing word first index with
  | nil => exact BitScan.spends_corrupt 1
  | cons count counts ih =>
    unfold read.go
    refine BitScan.spends_bit.bind fun b => ?_
    dsimp only
    split
    · split
      · exact BitScan.spends_pure _
      · exact BitScan.spends_corrupt 0
    · exact (ih _ _ _).zero

/-- A word has at least one bit. -/
theorem spends_read (code : Code) : BitScan.Spends code.read 1 := spends_go code _ _ _ _

end Code

end Discern.Deflate
