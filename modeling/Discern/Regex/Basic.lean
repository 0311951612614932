import Discern.Regex.Scalar
import Discern.Unicode.Word

/-!
# Regular expressions

A `Regex` says which stretches of a content it takes.  Searching a content follows
all positions at once: a set of positions is a number whose bit `i` stands for
position `i`, and a regex turns the set of positions where stretches begin into
the set of those where they end.  For one content a regex is therefore a `Motion`
of position sets, and the search begins at every position.

Only whether something is found matters here, so there is no order among the ways
to match and nothing is captured.
-/

namespace Discern

/-- A set of code points or of bytes. -/
abbrev CodeSet := Nat → Bool

/-- **What can be asked of a position** without taking any byte.  Boundaries of
words are Unicode boundaries or ASCII boundaries. -/
inductive Look where
  | textStart
  | textEnd
  | lineStart
  | lineEnd
  | lineStartCrlf
  | lineEndCrlf
  | wordBoundary (unicode : Bool)
  | notWordBoundary (unicode : Bool)
  | wordStart (unicode : Bool)
  | wordEnd (unicode : Bool)
  | wordStartHalf (unicode : Bool)
  | wordEndHalf (unicode : Bool)
deriving DecidableEq

/-- **Regular expressions over bytes.**  `scalar` takes the encoding of one code
point of a set, `byte` one byte of a set; `loop` takes at least `min` and at most
`max` stretches in a row. -/
inductive Regex where
  | empty
  | scalar (set : CodeSet)
  | byte (set : CodeSet)
  | look (look : Look)
  | cat (first second : Regex)
  | either (first second : Regex)
  | loop (body : Regex) (min : Nat) (max : Option Nat)
deriving Inhabited

/-! ## Questions to a position -/

namespace Look

/-- Word characters of ASCII. -/
def isAsciiWord (n : Nat) : Bool :=
  (48 ≤ n && n ≤ 57) || (65 ≤ n && n ≤ 90) || n == 95 || (97 ≤ n && n ≤ 122)

section

variable (content : Array UInt8) (i : Nat)

/-- Whether a byte stands at the position. -/
def isByte (byte : UInt8) : Bool := content[i]? == some byte

/-- Whether a word character ends at the position. -/
def wordBefore (unicode : Bool) : Bool :=
  i != 0 &&
    if unicode then ((Regex.scalarBefore? content i).map Unicode.isWord).getD false
    else ((content[i - 1]?).map fun b => isAsciiWord b.toNat).getD false

/-- Whether a word character begins at the position. -/
def wordAfter (unicode : Bool) : Bool :=
  if unicode then ((Regex.scalarAt? content i).map fun s => Unicode.isWord s.1).getD false
  else ((content[i]?).map fun b => isAsciiWord b.toNat).getD false

/-- Whether the text before the position ends with a scalar value, if any is there. -/
def soundBefore (unicode : Bool) : Bool :=
  !unicode || i == 0 || (Regex.scalarBefore? content i).isSome

/-- Whether the text after the position begins with a scalar value, if any is there. -/
def soundAfter (unicode : Bool) : Bool :=
  !unicode || i == content.size || (Regex.scalarAt? content i).isSome

/-- **Whether a position answers a question.** -/
def holds : Look → Bool
  | textStart => i == 0
  | textEnd => i == content.size
  | lineStart => i == 0 || isByte content (i - 1) 10
  | lineEnd => i == content.size || isByte content i 10
  | lineStartCrlf =>
    i == 0 || isByte content (i - 1) 10 ||
      (isByte content (i - 1) 13 && !isByte content i 10)
  | lineEndCrlf =>
    i == content.size || isByte content i 13 ||
      (isByte content i 10 && (i == 0 || !isByte content (i - 1) 13))
  | wordBoundary u => wordBefore content i u != wordAfter content i u
  | notWordBoundary u =>
    soundBefore content i u && soundAfter content i u &&
      wordBefore content i u == wordAfter content i u
  | wordStart u => !wordBefore content i u && wordAfter content i u
  | wordEnd u => wordBefore content i u && !wordAfter content i u
  | wordStartHalf u => soundBefore content i u && !wordBefore content i u
  | wordEndHalf u => soundAfter content i u && !wordAfter content i u

end

end Look

/-! ## Motions of position sets -/

/-- A set of positions, as the bits of a number. -/
abbrev Positions := Nat

/-- **What a regex does to sets of positions** of one content.  `stay` keeps the
positions of a set; `step` moves from the positions of the `k`-th set by `k + 1`
bytes. -/
inductive Motion where
  | stay (at_ : Positions)
  | step (from_ : List Positions)
  | seq (first second : Motion)
  | alt (first second : Motion)
  | loop (body : Motion) (min : Nat) (more : Nat)

namespace Motion

/-- Repeat a motion a number of times, or until it changes nothing. -/
def iterate (move : Positions → Positions) : Nat → Positions → Positions
  | 0, s => s
  | n + 1, s =>
    let next := move s
    if next = s then s else iterate move n next

/-- The positions reached in at most `n` moves.  `fresh` holds those of `reached`
whose moves have not been made. -/
def spread (move : Positions → Positions) : Nat → (reached fresh : Positions) → Positions
  | 0, reached, _ => reached
  | n + 1, reached, fresh =>
    if fresh = 0 then reached
    else
      let next := move fresh
      let new := next ^^^ (next &&& reached)
      spread move n (reached ||| new) new

/-- The positions reached by steps from the sets of a list, the first set with
steps of `length` bytes. -/
def stepAll (s : Positions) (length : Nat) : List Positions → Positions
  | [] => 0
  | set :: rest => ((s &&& set) <<< length) ||| stepAll s (length + 1) rest

/-- **The positions where a motion ends** when it begins at those of a set. -/
def run : Motion → Positions → Positions
  | stay set, s => s &&& set
  | step sets, s => stepAll s 1 sets
  | seq a b, s => b.run (a.run s)
  | alt a b, s => a.run s ||| b.run s
  | loop body min more, s =>
    let start := iterate body.run min s
    spread body.run more start start

end Motion

namespace Regex

/-- The positions from 0 to `last` that pass a test. -/
def positionsWhere (test : Nat → Bool) (last : Nat) : Positions :=
  (List.range (last + 1)).foldl (fun s i => if test i then s ||| (1 <<< i) else s) 0

/-- **The motion of a regex** on a content. -/
def motion (content : Array UInt8) : Regex → Motion
  | empty => .stay (Nat.pow 2 (content.size + 1) - 1)
  | scalar set =>
    .step <| [1, 2, 3, 4].map fun length => positionsWhere (fun i =>
      match scalarAt? content i with
      | some (code, size) => size == length && set code
      | none => false) content.size
  | byte set =>
    .step [positionsWhere (fun i => ((content[i]?).map fun b => set b.toNat).getD false)
      content.size]
  | look l => .stay (positionsWhere (fun i => l.holds content i) content.size)
  | cat a b => .seq (a.motion content) (b.motion content)
  | either a b => .alt (a.motion content) (b.motion content)
  | loop body min max =>
    .loop (body.motion content) min
      (match max with
        | some max => Nat.min (max - min) (content.size + 1)
        | none => content.size + 1)

/-- **Whether a regex takes a stretch of the content** anywhere. -/
def isFoundIn (regex : Regex) (content : Bytes) : Bool :=
  let content := content.toArray
  (regex.motion content).run (Nat.pow 2 (content.size + 1) - 1) != 0

/-- The number of states of an automaton for a regex, roughly. -/
def weight : Regex → Nat
  | empty => 0
  | cat a b => a.weight + b.weight
  | either a b => a.weight + b.weight + 1
  | loop body min max => body.weight * Nat.max 1 (max.getD min)
  | _ => 1

end Regex

end Discern
