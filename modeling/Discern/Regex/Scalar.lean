import Discern.Bytes

/-!
# Scalar values in a content

What stands at a position of a content that need not be well-formed UTF-8: a
scalar value with the number of its bytes, or nothing.  Overlong forms, surrogates
and numbers past U+10FFFF are no scalar values.
-/

namespace Discern.Regex

/-- The six bits of a continuation byte. -/
def continuation? (byte : UInt8) : Option Nat :=
  if 0x80 ≤ byte ∧ byte < 0xC0 then some (byte.toNat - 0x80) else none

/-- **The scalar value whose encoding begins at a position,** and its length. -/
def scalarAt? (content : Array UInt8) (i : Nat) : Option (Nat × Nat) := do
  let lead ← content[i]?
  let more (k : Nat) : Option Nat := (content[i + k]?).bind continuation?
  let n := lead.toNat
  if n < 0x80 then return (n, 1)
  else if 0xC2 ≤ n ∧ n < 0xE0 then
    return ((n - 0xC0) * 0x40 + (← more 1), 2)
  else if 0xE0 ≤ n ∧ n < 0xF0 then
    let code := (n - 0xE0) * 0x1000 + (← more 1) * 0x40 + (← more 2)
    if code < 0x800 ∨ (0xD800 ≤ code ∧ code < 0xE000) then none else return (code, 3)
  else if 0xF0 ≤ n ∧ n < 0xF5 then
    let code := (n - 0xF0) * 0x40000 + (← more 1) * 0x1000 + (← more 2) * 0x40 + (← more 3)
    if code < 0x10000 ∨ 0x110000 ≤ code then none else return (code, 4)
  else none

/-- **The scalar value before a position:** it begins at the last byte there that
is no continuation byte, at most four bytes back. -/
def scalarBefore? (content : Array UInt8) (i : Nat) : Option Nat :=
  go 3 (i - 1)
where
  go : Nat → Nat → Option Nat
    | 0, start => (scalarAt? (content.extract 0 i) start).map Prod.fst
    | steps + 1, start =>
      if start > 0 && ((content[start]?).bind continuation?).isSome then go steps (start - 1)
      else (scalarAt? (content.extract 0 i) start).map Prod.fst

end Discern.Regex
