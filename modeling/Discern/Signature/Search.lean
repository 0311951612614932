import Discern.Signature.Sequence
import Std.Data.HashSet

/-!
# Searching a content for a byte sequence

The steps of a byte sequence are placed one after the other in the content, or in
the reversed content for a sequence anchored at its end.  The search goes through
the positions that the gap of a step admits, from the nearest to the farthest,
and backtracks when the steps after it cannot be placed.  Pairs of steps left and
position that failed are remembered, so that each is tried once.
-/

namespace Discern

/-- The dead ends of a search: how many steps were left, and at which position. -/
abbrev DeadEnds := Std.HashSet (Nat × Nat)

namespace Search

/-- Try `count` positions from `start` on until one succeeds. -/
def firstSuccess (attempt : Nat → DeadEnds → Bool × DeadEnds) :
    (count start : Nat) → DeadEnds → Bool × DeadEnds
  | 0, _, dead => (false, dead)
  | count + 1, start, dead =>
    match attempt start dead with
    | (true, dead) => (true, dead)
    | (false, dead) => firstSuccess attempt count (start + 1) dead

/-- The positions where a step may put its fragment when the step before it ended
at `position`, as the number of positions and the first of them. -/
def candidates (size position : Nat) (step : Step) : Nat × Nat :=
  let start := position + step.gap.min.toNat
  match step.gap.max with
  | some max =>
    let stop := Nat.min (position + max.toNat) (size - step.fragment.length)
    (stop + 1 - start, start)
  | none => (size - step.fragment.length + 1 - start, start)

/-- **Place all steps after a position.**  The answer comes with the dead ends
known so far. -/
def place (content : Array UInt8) : List Step → Nat → DeadEnds → Bool × DeadEnds
  | [], _, dead => (true, dead)
  | step :: rest, position, dead =>
    if dead.contains (rest.length + 1, position) then (false, dead)
    else if content.size < step.fragment.length then
      (false, dead.insert (rest.length + 1, position))
    else
      let (count, start) := candidates content.size position step
      let attempt := fun start dead =>
        if step.fragment.occursAt content start then
          place content rest (start + step.fragment.length) dead
        else (false, dead)
      match firstSuccess attempt count start dead with
      | (true, dead) => (true, dead)
      | (false, dead) => (false, dead.insert (rest.length + 1, position))

end Search

namespace ByteSequence

/-- The content as the steps of a sequence see it. -/
def view (sequence : ByteSequence) (content : Bytes) : Array UInt8 :=
  match sequence.anchor with
  | .eof => content.reverse.toArray
  | _ => content.toArray

/-- **Whether a content holds the sequence.**  A sequence that was never prepared
has no steps and is held by no content. -/
def occursIn (sequence : ByteSequence) (content : Bytes) : Bool :=
  !sequence.steps.isEmpty && (Search.place (sequence.view content) sequence.steps 0 ∅).1

end ByteSequence

end Discern
