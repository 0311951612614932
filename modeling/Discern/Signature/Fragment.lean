import Discern.Bytes
import Discern.Text.Hex

/-!
# Byte fragments

A fragment is a run of cells that lie side by side in the content.  A cell asks
for one byte, or for any byte when it is a wildcard.
-/

namespace Discern

/-- **A run of cells,** of which `none` is a wildcard. -/
structure Fragment where
  cells : List (Option UInt8)
deriving DecidableEq, Inhabited

namespace Fragment

/-- The fragment of these very bytes. -/
def literal (bytes : Bytes) : Fragment := ⟨bytes.map some⟩

def length (fragment : Fragment) : Nat := fragment.cells.length

def isEmpty (fragment : Fragment) : Bool := fragment.cells.isEmpty

/-- The cells from the last to the first. -/
def reverse (fragment : Fragment) : Fragment := ⟨fragment.cells.reverse⟩

/-- Whether a cell takes a byte. -/
def cellAccepts (cell : Option UInt8) (byte : UInt8) : Bool :=
  match cell with
  | some expected => expected == byte
  | none => true

/-- Whether the cells take the bytes of `content` from `start` on. -/
def occursAt (fragment : Fragment) (content : Array UInt8) (start : Nat) : Bool :=
  go fragment.cells start
where
  go : List (Option UInt8) → Nat → Bool
    | [], _ => true
    | cell :: rest, position =>
      match content[position]? with
      | some byte => cellAccepts cell byte && go rest (position + 1)
      | none => false

/-- The cells in capital hexadecimal digits, `??` for a wildcard, with a space
between two cells. -/
def display (fragment : Fragment) : String :=
  " ".intercalate (fragment.cells.map fun
    | some byte => String.ofList (Text.Hex.upper byte)
    | none => "??")

@[simp] theorem length_literal (bytes : Bytes) : (literal bytes).length = bytes.length := by
  simp [literal, length]

@[simp] theorem length_reverse (fragment : Fragment) :
    fragment.reverse.length = fragment.length := by
  simp [reverse, length]

end Fragment

end Discern
