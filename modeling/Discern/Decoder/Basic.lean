import Discern.Decoder.Machine
import Discern.Decoder.Ratio
import Discern.Format

/-!
# Decoders

A decoder unwraps content that is encoded in one format.  Besides its machine it
knows how large encoded content can be, so that a limit on decoded bytes can be
turned into one on encoded bytes.
-/

namespace Discern

/-- **A decoder for one format.** -/
structure Decoder where
  tag : FormatTag
  name : String
  ratio : Ratio
  offset : UInt64
  machine : Machine

namespace Decoder

/-- **The encoded bytes** that stand for `inner` decoded ones at worst; it does not
pass the greatest word. -/
def outerLimit (d : Decoder) (inner : Nat) : Nat :=
  (Word.saturatingAdd (Word.saturate (d.ratio.scale inner)) d.offset).toNat

end Decoder

end Discern
