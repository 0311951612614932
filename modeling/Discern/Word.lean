/-!
# Machine words

Offsets and gap bounds are 64-bit words and format ids are 32-bit words.  Adding
two offsets stops at the greatest word instead of wrapping
(`toNat_saturatingAdd`).  A word is written as decimal digits, with at most one
`+` before them and any number of leading zeros.
-/

namespace Discern.Word

/-- The greatest 64-bit word. -/
def greatest : UInt64 := 0xFFFFFFFFFFFFFFFF

/-- The word nearest to a number. -/
def saturate (n : Nat) : UInt64 := if n < UInt64.size then UInt64.ofNat n else greatest

/-- Addition that stops at the greatest word. -/
def saturatingAdd (a b : UInt64) : UInt64 := saturate (a.toNat + b.toNat)

/-- What a decimal digit stands for. -/
def digit? (c : Char) : Option Nat :=
  if '0' ≤ c ∧ c ≤ '9' then some (c.toNat - '0'.toNat) else none

/-- The value of a run of decimal digits, after those that gave `value`. -/
def readDigits (value : Nat) : List Char → Option Nat
  | [] => some value
  | c :: rest =>
    match digit? c with
    | some d => readDigits (10 * value + d) rest
    | none => none

/-- **Decimal text of a natural number:** one optional `+`, then at least one
digit and nothing else. -/
def readNat? : List Char → Option Nat
  | [] => none
  | ['+'] => none
  | '+' :: digits => readDigits 0 digits
  | digits => readDigits 0 digits

/-- The 64-bit word that a decimal text names. -/
def read64? (cs : List Char) : Option UInt64 :=
  match readNat? cs with
  | some n => if n < UInt64.size then some (UInt64.ofNat n) else none
  | none => none

theorem toNat_saturate (n : Nat) : (saturate n).toNat = min n (UInt64.size - 1) := by
  unfold saturate
  split
  · rename_i h
    rw [UInt64.toNat_ofNat_of_lt' h]
    omega
  · rename_i h
    change UInt64.size - 1 = min n (UInt64.size - 1)
    omega

/-- Saturating addition is addition of numbers, cut at the greatest word. -/
theorem toNat_saturatingAdd (a b : UInt64) :
    (saturatingAdd a b).toNat = min (a.toNat + b.toNat) (UInt64.size - 1) :=
  toNat_saturate _

@[simp] theorem saturate_toNat (a : UInt64) : saturate a.toNat = a := by
  unfold saturate
  rw [if_pos a.toNat_lt]
  exact UInt64.ofNat_toNat

end Discern.Word
