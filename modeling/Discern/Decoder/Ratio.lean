import Discern.Word

/-!
# Encoded sizes

A decoder says how many encoded bytes a decoded byte takes at worst, as a `Ratio`,
and how many more the encoding has around it.  From these a limit on decoded bytes
becomes a limit on encoded bytes.  The limit is rounded to the precision of a double
before and after it is scaled; for the numbers that occur this is exact
(`roundSignificand_of_lt`).
-/

namespace Discern

/-- **A ratio of sizes,** `numerator / 2 ^ shift`. -/
structure Ratio where
  numerator : Int
  shift : Nat
deriving DecidableEq, Inhabited

namespace Ratio

/-- As many encoded bytes as decoded ones. -/
def one : Ratio := ⟨1, 0⟩

/-- **The number with the given bits of a single-precision word.**  Its exponent is
kept in the shift, which is why a large number is a large numerator. -/
def ofBits (bits : UInt32) : Ratio :=
  let bits := bits.toNat
  let exponent := bits / Nat.pow 2 23 % 256
  let fraction := bits % Nat.pow 2 23
  let (significand, exponent) :=
    if exponent = 0 then (fraction, 1) else (fraction + Nat.pow 2 23, exponent)
  let magnitude : Nat := significand * Nat.pow 2 (exponent - 150)
  let numerator : Int := if bits < Nat.pow 2 31 then magnitude else -magnitude
  ⟨numerator, 150 - exponent⟩

/-- The digits of a double's significand. -/
def precision : Nat := 53

/-- **A number rounded to the precision of a double,** to an even significand where
two are equally near. -/
def roundSignificand (n : Nat) : Nat :=
  let unit := Nat.pow 2 (n.log2 + 1 - precision)
  let quotient := n / unit
  let rest := n % unit
  if 2 * rest < unit ∨ (2 * rest = unit ∧ quotient % 2 = 0) then quotient * unit
  else (quotient + 1) * unit

/-- The least natural number that is no less than `n / 2 ^ shift`. -/
def ceiling (n shift : Nat) : Nat := (n + Nat.pow 2 shift - 1) / Nat.pow 2 shift

/-- **A size scaled up,** which is nothing for a ratio below zero. -/
def scale (ratio : Ratio) (size : Nat) : Nat :=
  match ratio.numerator with
  | .ofNat n => ceiling (roundSignificand (roundSignificand size * n)) ratio.shift
  | .negSucc _ => 0

/-- A number of at most 53 digits is left as it is. -/
theorem roundSignificand_of_lt {n : Nat} (h : n < Nat.pow 2 precision) : roundSignificand n = n := by
  have hlog : n.log2 + 1 - precision = 0 := by
    rcases Nat.eq_zero_or_pos n with rfl | hn
    · rfl
    · have short : n.log2 < precision := (Nat.log2_lt (Nat.ne_of_gt hn)).2 h
      omega
  unfold roundSignificand
  simp only [hlog]
  split <;> simp_all [Nat.mod_one]

end Ratio

end Discern
