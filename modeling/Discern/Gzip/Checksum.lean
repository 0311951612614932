import Discern.Bytes

/-!
# The checksum of gzip

The checksum is the remainder of a content, read as a polynomial over two elements,
on division by the polynomial of degree 32 that gzip uses.  A register that starts
with ones is fed byte by byte, and its inverse is the checksum.
-/

namespace Discern.Gzip

/-- **A checksum in the making.** -/
structure Checksum where
  register : UInt32
deriving DecidableEq, Inhabited

namespace Checksum

def start : Checksum := ⟨0xFFFFFFFF⟩

/-- The dividing polynomial without its highest term, lowest bit first. -/
def polynomial : UInt32 := 0xEDB88320

/-- Divide a bit away. -/
def shift (r : UInt32) : UInt32 :=
  if r &&& 1 = 1 then (r >>> 1) ^^^ polynomial else r >>> 1

/-- Feed one byte. -/
def feedByte (c : Checksum) (byte : UInt8) : Checksum :=
  ⟨(List.range 8).foldl (fun r _ => shift r) (c.register ^^^ byte.toUInt32)⟩

/-- **Feed bytes.** -/
def feed (c : Checksum) (bytes : Bytes) : Checksum := bytes.foldl feedByte c

/-- The checksum of what was fed. -/
def value (c : Checksum) : UInt32 := c.register ^^^ 0xFFFFFFFF

end Checksum

end Discern.Gzip
