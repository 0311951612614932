import Discern.Word

/-!
# Gaps

A gap says how many bytes may lie between two parts of a byte pattern: at least
`min`, and at most `max` unless it is unbounded.  `Gap.Admits` is its meaning.
-/

namespace Discern

/-- **Bounds on a run of skipped bytes.**  Without `max` the gap is unbounded. -/
structure Gap where
  min : UInt64
  max : Option UInt64
deriving DecidableEq, Inhabited

namespace Gap

/-- No byte is skipped. -/
def none : Gap := ⟨0, some 0⟩

def exactly (n : UInt64) : Gap := ⟨n, some n⟩

def between (min max : UInt64) : Gap := ⟨min, some max⟩

def atLeast (min : UInt64) : Gap := ⟨min, Option.none⟩

def isUnbounded (gap : Gap) : Bool := gap.max.isNone

/-- Both bounds moved up, as far as words go. -/
def shift (gap : Gap) (offset : UInt64) : Gap :=
  ⟨Word.saturatingAdd gap.min offset, gap.max.map (Word.saturatingAdd · offset)⟩

/-- The same lower bound without an upper one. -/
def unbounded (gap : Gap) : Gap := atLeast gap.min

/-- The upper bound, if it lies below the lower one. -/
def inverted? (gap : Gap) : Option UInt64 := gap.max.filter (· < gap.min)

/-- **Meaning of a gap:** the numbers of bytes it lets one skip. -/
def Admits (gap : Gap) (n : Nat) : Prop :=
  gap.min.toNat ≤ n ∧ ∀ max, gap.max = some max → n ≤ max.toNat

/-- A gap is written `{n}`, `{n-m}` or `{n-*}`. -/
def display (gap : Gap) : String :=
  match gap.max with
  | some max =>
    if max = gap.min then s!"\x7b{gap.min.toNat}\x7d"
    else s!"\x7b{gap.min.toNat}-{max.toNat}\x7d"
  | Option.none => s!"\x7b{gap.min.toNat}-*\x7d"

end Gap

end Discern
