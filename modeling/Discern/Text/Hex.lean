/-!
# Hexadecimal digits

A byte is written as two hexadecimal digits, and a digit is read in either case.
Reading the two digits of a byte gives the byte back (`pair?_upper`,
`pair?_lower`).
-/

namespace Discern.Text.Hex

/-- What a hexadecimal digit of either case stands for. -/
def value? (c : Char) : Option UInt8 :=
  if '0' ≤ c ∧ c ≤ '9' then some (c.toNat - '0'.toNat).toUInt8
  else if 'a' ≤ c ∧ c ≤ 'f' then some (c.toNat - 'a'.toNat + 10).toUInt8
  else if 'A' ≤ c ∧ c ≤ 'F' then some (c.toNat - 'A'.toNat + 10).toUInt8
  else none

/-- The byte that two digits write. -/
def pair? (high low : Char) : Option UInt8 :=
  match value? high, value? low with
  | some h, some l => some (16 * h + l)
  | _, _ => none

/-- The digits from `0` to `f`. -/
def lowerDigit (n : Nat) : Char := if n < 10 then Char.ofNat (48 + n) else Char.ofNat (87 + n)

/-- The digits from `0` to `F`. -/
def upperDigit (n : Nat) : Char := if n < 10 then Char.ofNat (48 + n) else Char.ofNat (55 + n)

/-- Two small digits. -/
def lower (b : UInt8) : List Char := [lowerDigit (b.toNat / 16), lowerDigit (b.toNat % 16)]

/-- Two capital digits. -/
def upper (b : UInt8) : List Char := [upperDigit (b.toNat / 16), upperDigit (b.toNat % 16)]

/-- A number in small digits, without leading zeros. -/
def ofNat (n : Nat) : List Char := Nat.toDigits 16 n

theorem value?_lowerDigit : ∀ n, n < 16 → value? (lowerDigit n) = some n.toUInt8 := by
  decide

theorem value?_upperDigit : ∀ n, n < 16 → value? (upperDigit n) = some n.toUInt8 := by
  decide

private theorem join_digits (b : UInt8) :
    16 * (b.toNat / 16).toUInt8 + (b.toNat % 16).toUInt8 = b := by
  apply UInt8.toNat.inj
  have := b.toNat_lt
  simp [UInt8.toNat_add, UInt8.toNat_mul]
  omega

theorem pair?_lower (b : UInt8) :
    pair? (lowerDigit (b.toNat / 16)) (lowerDigit (b.toNat % 16)) = some b := by
  have := b.toNat_lt
  rw [pair?, value?_lowerDigit _ (by omega), value?_lowerDigit _ (by omega)]
  exact congrArg some (join_digits b)

theorem pair?_upper (b : UInt8) :
    pair? (upperDigit (b.toNat / 16)) (upperDigit (b.toNat % 16)) = some b := by
  have := b.toNat_lt
  rw [pair?, value?_upperDigit _ (by omega), value?_upperDigit _ (by omega)]
  exact congrArg some (join_digits b)

end Discern.Text.Hex
