import Discern.Signature.Search

/-!
# Matching by indices

`ByteSequence.flatten` and `Search.place` take lists apart.  The same can be done with indices into
the lists of a sub-sequence and into the content, and with sums and differences of machine words.
Here every index is compared with the length of what it points into, and every sum and difference
with the range of words, before it is used; the computation ends where one of them is no good.

The content is walked forwards, or from its end without being turned around.
-/

namespace Discern

/-- **What is wrong** with an index, a sum or a difference. -/
inductive IndexFault where
  | outside (index length : Nat)
  | sumTooLarge (one other : Nat)
  | differenceTooSmall (one other : Nat)
deriving DecidableEq

namespace Indexed

/-- The member at an index. -/
def pick {α : Type} (xs : List α) (index : Nat) : Except IndexFault α :=
  match xs[index]? with
  | some x => .ok x
  | none => .error (.outside index xs.length)

/-- The sum of two words, which has to be a word. -/
def plus (one other : Nat) : Except IndexFault Nat :=
  if one + other < UInt64.size then .ok (one + other) else .error (.sumTooLarge one other)

/-- The difference of two words, which has to be a word. -/
def minus (one other : Nat) : Except IndexFault Nat :=
  if other ≤ one then .ok (one - other) else .error (.differenceTooSmall one other)

/-! ## Steps -/

/-- The gap in front of a fragment. -/
def gapBefore (sub : SubSequence) (j : Nat) : Except IndexFault Gap :=
  if j = 0 then .ok sub.offset else do pick sub.gaps (← minus j 1)

/-- The gap behind a fragment, where the last fragment is next to the anchor. -/
def gapBehind (sub : SubSequence) (last j : Nat) : Except IndexFault Gap :=
  if j = last then .ok sub.offset else pick sub.gaps j

/-- The steps of the sub-sequence `i`, from the first fragment to the last.  `anchored` is what
becomes of the gap that is next to the anchor. -/
def stepsForward (anchored : Gap → Gap) (sub : SubSequence) (i : Nat) :
    Except IndexFault (List Step) :=
  sub.fragments.zipIdx.mapM fun (fragment, j) => do
    let gap ← gapBefore sub j
    return ⟨if i = 0 ∧ j = 0 then anchored gap else gap, fragment⟩

/-- The steps of the sub-sequence `i`, counted from the last one, from its last fragment to the
first. -/
def stepsBackward (anchored : Gap → Gap) (sub : SubSequence) (i : Nat) :
    Except IndexFault (List Step) := do
  let last ← minus sub.fragments.length 1
  (List.range sub.fragments.length).reverse.mapM fun j => do
    let gap ← gapBehind sub last j
    let fragment ← pick sub.fragments j
    return ⟨if i = 0 ∧ j = last then anchored gap else gap, fragment.reverse⟩

/-- **The steps of a byte sequence.** -/
def flatten (sequence : ByteSequence) : Except IndexFault (List Step) :=
  let rows := match sequence.anchor with
    | .eof => sequence.subSequences.reverse.zipIdx.mapM fun (sub, i) =>
        stepsBackward sequence.anchoredGap sub i
    | _ => sequence.subSequences.zipIdx.mapM fun (sub, i) =>
        stepsForward sequence.anchoredGap sub i
  rows.map List.flatten

/-! ## Searching -/

/-- **A content in the direction of matching.** -/
inductive Haystack where
  | forward (content : Bytes)
  | backward (content : Bytes)

namespace Haystack

def length : Haystack → Nat
  | forward content => content.length
  | backward content => content.length

/-- The byte at an index, counted in the direction of matching. -/
def byte : Haystack → Nat → Except IndexFault UInt8
  | forward content, index => pick content index
  | backward content, index => do
    let last ← minus content.length 1
    pick content (← minus last index)

end Haystack

/-- Whether the cells from the cell `i` on take the bytes of a content in which the first cell
stands at `start`.  No byte is looked at for a wildcard. -/
def cellsAccept (hay : Haystack) (start : Nat) : List (Option UInt8) → (i : Nat) →
    Except IndexFault Bool
  | [], _ => .ok true
  | none :: rest, i => cellsAccept hay start rest (i + 1)
  | some expected :: rest, i => do
    let byte ← hay.byte (← plus start i)
    if byte = expected then cellsAccept hay start rest (i + 1) else return false

/-- Whether a fragment stands in a content. -/
def occursAt (hay : Haystack) (fragment : Fragment) (start : Nat) : Except IndexFault Bool :=
  cellsAccept hay start fragment.cells 0

/-- Try positions until one succeeds. -/
def firstSuccess (attempt : Nat → DeadEnds → Except IndexFault (Bool × DeadEnds)) :
    (count start : Nat) → DeadEnds → Except IndexFault (Bool × DeadEnds)
  | 0, _, dead => .ok (false, dead)
  | count + 1, start, dead => do
    match ← attempt start dead with
    | (true, dead) => return (true, dead)
    | (false, dead) => firstSuccess attempt count (start + 1) dead

/-- The sum of a position and a bound of a gap, which stops at the greatest word. -/
def reach (position : Nat) (bound : UInt64) : Nat := (Word.saturate (position + bound.toNat)).toNat

/-- The number of positions to try for a step, and the first of them. -/
def candidates (size position : Nat) (step : Step) : Nat × Nat :=
  let lastStart := size - step.fragment.length
  let first := reach position step.gap.min
  let last := match step.gap.max with
    | some max => min (reach position max) lastStart
    | none => lastStart
  (last + 1 - first, first)

/-- Try a position for the fragment of the step `index`, and behind it the steps that follow. -/
def attempt (hay : Haystack) (fragment : Fragment) (index : Nat)
    (follow : (index position : Nat) → DeadEnds → Except IndexFault (Bool × DeadEnds))
    (start : Nat) (dead : DeadEnds) : Except IndexFault (Bool × DeadEnds) := do
  if ← occursAt hay fragment start then
    follow (← plus index 1) (← plus start fragment.length) dead
  else return (false, dead)

/-- **Place all steps from the step `index` on** after a position. -/
def place (hay : Haystack) : List Step → (index position : Nat) → DeadEnds →
    Except IndexFault (Bool × DeadEnds)
  | [], _, _, dead => .ok (true, dead)
  | step :: rest, index, position, dead =>
    if dead.contains (rest.length + 1, position) then .ok (false, dead)
    else if hay.length < step.fragment.length then
      .ok (false, dead.insert (rest.length + 1, position))
    else do
      let (count, start) := candidates hay.length position step
      match ← firstSuccess (attempt hay step.fragment index (place hay rest)) count start dead with
      | (true, dead) => return (true, dead)
      | (false, dead) => return (false, dead.insert (rest.length + 1, position))

/-- The content in the direction in which a sequence is matched. -/
def haystack (sequence : ByteSequence) (content : Bytes) : Haystack :=
  match sequence.anchor with
  | .eof => .backward content
  | _ => .forward content

/-- **Whether a content holds a prepared sequence.** -/
def occursIn (sequence : ByteSequence) (content : Bytes) : Except IndexFault Bool :=
  if sequence.steps.isEmpty then .ok false
  else (place (haystack sequence content) sequence.steps 0 0 ∅).map Prod.fst

end Indexed

end Discern
