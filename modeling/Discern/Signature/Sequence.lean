import Discern.Signature.Fragment
import Discern.Signature.Gap

/-!
# Byte sequences

A `SubSequence` is a chain of fragments with a gap between any two neighbours and
a leading gap on the side of its anchor.  A `ByteSequence` is a list of
sub-sequences anchored at the beginning of the content, at its end, or nowhere.

For matching, a byte sequence is flattened into steps: skip within a gap, then
take a fragment.  A sequence anchored at the end is flattened from its last
fragment to its first, with reversed fragments, so that its steps walk the
reversed content forwards.

`ByteSequence.flaw?` finds what is wrong with the shape of a sequence.
-/

namespace Discern

/-- **Where a byte sequence is anchored.**  The order of the constructors is the
order in which the sequences of a signature are tried. -/
inductive Anchor where
  | bof
  | eof
  | variable
deriving DecidableEq, Inhabited

namespace Anchor

/-- The place in the order in which anchors are tried. -/
def rank : Anchor → Nat
  | bof => 0
  | eof => 1
  | «variable» => 2

def display : Anchor → String
  | bof => "BOF"
  | eof => "EOF"
  | «variable» => "Variable"

end Anchor

/-- **A chain of fragments.**  `gaps` lists the gap after each fragment but the
last; `offset` is the gap to the neighbour on the side of the anchor. -/
structure SubSequence where
  offset : Gap := Gap.none
  fragments : List Fragment
  gaps : List Gap
deriving DecidableEq, Inhabited

/-- **One step of matching:** skip within a gap, then take a fragment. -/
structure Step where
  gap : Gap
  fragment : Fragment
deriving DecidableEq, Inhabited

namespace SubSequence

/-- The steps from the first fragment to the last. -/
def stepsForward (sub : SubSequence) : List Step :=
  List.zipWith Step.mk (sub.offset :: sub.gaps) sub.fragments

/-- The steps from the last fragment to the first, each fragment reversed. -/
def stepsBackward (sub : SubSequence) : List Step :=
  List.zipWith Step.mk (sub.offset :: sub.gaps.reverse)
    (sub.fragments.reverse.map Fragment.reverse)

end SubSequence

/-- **Sub-sequences with an anchor.**  `offset` is added to the leading gap of the
sub-sequence next to the anchor.  `steps` stays empty until the sequence is
prepared. -/
structure ByteSequence where
  anchor : Anchor
  offset : UInt64 := 0
  subSequences : List SubSequence
  steps : List Step := []
deriving DecidableEq, Inhabited

/-- **What can be wrong with the shape of a byte sequence.** -/
inductive ShapeFlaw where
  | noSubSequence
  | noFragment
  | emptyFragment
  | misalignedGaps (fragments gaps : Nat)
  | invertedGap (min max : UInt64)
deriving DecidableEq, Inhabited

namespace SubSequence

/-- The first flaw of a chain: it needs a fragment, no empty fragment, one gap
fewer than fragments, and no gap whose bounds are inverted. -/
def flaw? (sub : SubSequence) : Option ShapeFlaw :=
  if sub.fragments.isEmpty then some .noFragment
  else if sub.fragments.any Fragment.isEmpty then some .emptyFragment
  else if sub.gaps.length + 1 ≠ sub.fragments.length then
    some (.misalignedGaps sub.fragments.length sub.gaps.length)
  else
    (sub.offset :: sub.gaps).findSome? fun gap =>
      gap.inverted?.map (ShapeFlaw.invertedGap gap.min)

end SubSequence

namespace ByteSequence

/-- The first flaw in the shape of a byte sequence. -/
def flaw? (sequence : ByteSequence) : Option ShapeFlaw :=
  if sequence.subSequences.isEmpty then some .noSubSequence
  else sequence.subSequences.findSome? SubSequence.flaw?

/-- The steps of the sub-sequences before the reference offset is added. -/
def chain (sequence : ByteSequence) : List Step :=
  match sequence.anchor with
  | .eof => sequence.subSequences.reverse.flatMap SubSequence.stepsBackward
  | _ => sequence.subSequences.flatMap SubSequence.stepsForward

/-- The first gap, measured from the anchor: moved by the reference offset, and
without an upper bound where the sequence floats. -/
def anchoredGap (sequence : ByteSequence) (gap : Gap) : Gap :=
  match sequence.anchor with
  | .variable => (gap.shift sequence.offset).unbounded
  | _ => gap.shift sequence.offset

/-- **Steps of a byte sequence,** in the order in which they are matched. -/
def flatten (sequence : ByteSequence) : List Step :=
  sequence.chain.modifyHead fun step => { step with gap := sequence.anchoredGap step.gap }

/-- The sequence with its steps. -/
def prepare (sequence : ByteSequence) : ByteSequence :=
  { sequence with steps := sequence.flatten }

end ByteSequence

end Discern
