import Discern.Deflate.Bits
import Discern.Gzip.Checksum

/-!
# The ends of a gzip member

A member begins with a header: ten bytes, then an extra field, a name, a comment and
a checksum of the header, as far as its flags announce them.  It ends with the
checksum and the length of its content.
-/

namespace Discern.Gzip

open Deflate BitScan

/-- The number that bytes write, the lowest first. -/
def littleEndian : Bytes → Nat
  | [] => 0
  | byte :: rest => byte.toNat + 256 * littleEndian rest

namespace Header

/-- The longest name or comment that is read. -/
def longestText : Nat := 65535

/-- A text up to its closing zero, which is kept. -/
def text : (room : Nat) → BitScan Bytes
  | 0 => do
    let byte ← bits 8
    if byte = 0 then return [0] else corrupt
  | room + 1 => do
    let byte ← bits 8
    if byte = 0 then return [0]
    else return byte.toUInt8 :: (← text room)

/-- An extra field, with its length in front. -/
def extra : BitScan Bytes := do
  let length ← bytes 2
  return length ++ (← bytes (littleEndian length))

/-- A part of the header that a flag announces. -/
def part (announced : Bool) (p : BitScan Bytes) : BitScan Bytes :=
  if announced then p else return []

/-- The checksum of the header, of which only the lower half is written. -/
def checksum (header : Bytes) : BitScan Unit := do
  let written ← bytes 2
  if littleEndian written = (Checksum.start.feed header).value.toNat % 65536 then return ()
  else corrupt

/-- What the flags announce after the first ten bytes. -/
def rest (fixed : Bytes) (flags : Nat) : BitScan Unit := do
  let extra ← part (flags.testBit 2) extra
  let name ← part (flags.testBit 3) (text longestText)
  let comment ← part (flags.testBit 4) (text longestText)
  if flags.testBit 1 then checksum (fixed ++ extra ++ name ++ comment) else return ()

/-- **Skip a header.**  It begins with the mark of gzip and the number of the one
compression method, and sets no reserved flag. -/
def skip : BitScan Unit := do
  let fixed ← bytes 10
  match fixed with
  | 0x1f :: 0x8b :: 8 :: flags :: _ =>
    if 32 ≤ flags.toNat then corrupt else rest fixed flags.toNat
  | _ => corrupt

theorem spends_text (room : Nat) : Spends (text room) 0 := by
  induction room with
  | zero =>
    refine (spends_bits 8).zero.bind fun byte => ?_
    split
    · exact spends_pure _
    · exact spends_corrupt 0
  | succ room ih =>
    refine (spends_bits 8).zero.bind fun byte => ?_
    split
    · exact spends_pure _
    · exact ih.bind fun r => spends_pure _

theorem spends_part (announced : Bool) {p : BitScan Bytes} (h : Spends p 0) :
    Spends (part announced p) 0 := by
  unfold part
  split
  · exact h
  · exact spends_pure _

theorem spends_extra : Spends extra 0 :=
  (spends_bytes 2).zero.bind fun _ => (spends_bytes _).zero.bind fun _ => spends_pure _

theorem spends_checksum (header : Bytes) : Spends (checksum header) 0 := by
  refine (spends_bytes 2).zero.bind fun written => ?_
  split
  · exact spends_pure _
  · exact spends_corrupt 0

theorem spends_rest (fixed : Bytes) (flags : Nat) : Spends (rest fixed flags) 0 := by
  refine (spends_part _ spends_extra).bind fun extra => ?_
  refine (spends_part _ (spends_text _)).bind fun name => ?_
  refine (spends_part _ (spends_text _)).bind fun comment => ?_
  split
  · exact spends_checksum _
  · exact spends_pure _

/-- A header has ten bytes at least. -/
theorem spends_skip : Spends skip 80 := by
  refine (spends_bytes 10).bind fun fixed => ?_
  split
  · split
    · exact spends_corrupt 0
    · exact spends_rest _ _
  · exact spends_corrupt 0

end Header

/-- **The end of a member:** the checksum and the length of its content. -/
def trailer : BitScan (Nat × Nat) := do
  align
  let sum ← bytes 4
  let length ← bytes 4
  return (littleEndian sum, littleEndian length)

/-- A trailer has eight bytes. -/
theorem spends_trailer : Spends trailer 32 :=
  (spends_align.add fun _ => (spends_bytes 4).bind fun _ =>
    (spends_bytes 4).zero.bind fun _ => spends_pure _).mono (by omega)

end Discern.Gzip
