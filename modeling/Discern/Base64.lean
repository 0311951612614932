import Discern.Bytes

/-!
# Base64

The standard alphabet with padding.  Four symbols, a quad, write three bytes; the
last quad may be padded and then writes one or two.  Decoding is canonical: it
takes complete quads alone, wants the padding, wants the unused bits of a padded
quad to be zero, and refuses everything after the padding.
-/

namespace Discern.Base64

/-- The padding symbol `=`. -/
def pad : UInt8 := 61

/-- What a symbol of the alphabet stands for. -/
def value? (symbol : UInt8) : Option Nat :=
  if 65 ≤ symbol ∧ symbol ≤ 90 then some (symbol.toNat - 65)
  else if 97 ≤ symbol ∧ symbol ≤ 122 then some (symbol.toNat - 71)
  else if 48 ≤ symbol ∧ symbol ≤ 57 then some (symbol.toNat + 4)
  else if symbol = 43 then some 62
  else if symbol = 47 then some 63
  else none

/-- The symbol of a six-bit value. -/
def symbol (value : Nat) : UInt8 :=
  if value < 26 then (value + 65).toUInt8
  else if value < 52 then (value + 71).toUInt8
  else if value < 62 then (value - 4).toUInt8
  else if value = 62 then 43
  else 47

/-- The bytes of a quad without padding. -/
def fullQuad (a b c d : UInt8) : Option Bytes := do
  let (a, b, c, d) := (← value? a, ← value? b, ← value? c, ← value? d)
  return [(a * 4 + b / 16).toUInt8, (b % 16 * 16 + c / 4).toUInt8, (c % 4 * 64 + d).toUInt8]

/-- **The bytes of the last quad,** which may be padded. -/
def lastQuad (a b c d : UInt8) : Option Bytes :=
  if d = pad then do
    if c = pad then
      let (a, b) := (← value? a, ← value? b)
      if b % 16 = 0 then some [(a * 4 + b / 16).toUInt8] else none
    else
      let (a, b, c) := (← value? a, ← value? b, ← value? c)
      if c % 4 = 0 then some [(a * 4 + b / 16).toUInt8, (b % 16 * 16 + c / 4).toUInt8] else none
  else fullQuad a b c d

/-- **The bytes that a text of complete quads writes.** -/
def decode? (symbols : Bytes) : Option Bytes :=
  go #[] symbols
where
  go (done : Array UInt8) : Bytes → Option Bytes
    | [] => some done.toList
    | [a, b, c, d] => do return (done ++ (← lastQuad a b c d)).toList
    | a :: b :: c :: d :: rest => do go (done ++ (← fullQuad a b c d)) rest
    | _ => none

/-- **The text of some bytes.** -/
def encode : Bytes → Bytes
  | [] => []
  | [x] =>
    let n := x.toNat
    [symbol (n / 4), symbol (n % 4 * 16), pad, pad]
  | [x, y] =>
    let (n, m) := (x.toNat, y.toNat)
    [symbol (n / 4), symbol (n % 4 * 16 + m / 16), symbol (m % 16 * 4), pad]
  | x :: y :: z :: rest =>
    let (n, m, k) := (x.toNat, y.toNat, z.toNat)
    symbol (n / 4) :: symbol (n % 4 * 16 + m / 16) :: symbol (m % 16 * 4 + k / 64) ::
      symbol (k % 64) :: encode rest

/-- Whether the last quad of a text is padded, so that nothing may follow it. -/
def isPadded (symbols : Bytes) : Bool := symbols.getLast? == some pad

/-- The five ASCII blanks that may stand between symbols. -/
def isBlankByte (b : UInt8) : Bool := b == 32 || b == 9 || b == 10 || b == 12 || b == 13

/-- A quad writes at most three bytes. -/
theorem length_of_lastQuad {a b c d : UInt8} {bytes : Bytes}
    (h : lastQuad a b c d = some bytes) : bytes.length ≤ 3 := by
  simp only [lastQuad, fullQuad, Option.bind_eq_bind, Option.pure_def] at h
  split at h
  · split at h <;> simp only [Option.bind_eq_some_iff] at h
    · obtain ⟨_, _, _, _, h⟩ := h
      split at h <;> simp_all
      simp [← h]
    · obtain ⟨_, _, _, _, _, _, h⟩ := h
      split at h <;> simp_all
      simp [← h]
  · simp only [Option.bind_eq_some_iff] at h
    obtain ⟨_, _, _, _, _, _, _, _, h⟩ := h
    simp_all
    simp [← h]

/-- Decoded content is no longer than the symbols that write it. -/
theorem length_of_decode {symbols bytes : Bytes} (h : decode? symbols = some bytes) :
    bytes.length ≤ symbols.length := by
  suffices ∀ done, decode?.go done symbols = some bytes →
      bytes.length ≤ done.size + symbols.length by
    simpa using this #[] h
  clear h
  intro done h
  fun_induction decode?.go done symbols with
  | case1 done =>
    cases h
    simp
  | case2 done a b c d =>
    simp only [Option.bind_eq_bind, Option.pure_def, Option.bind_eq_some_iff] at h
    obtain ⟨quad, hq, h⟩ := h
    have := length_of_lastQuad hq
    cases h
    simp
    omega
  | case3 done a b c d rest hne ih =>
    simp only [Option.bind_eq_bind, Option.bind_eq_some_iff] at h
    obtain ⟨quad, hq, h⟩ := h
    have hlen : quad.length = 3 := by
      simp only [fullQuad, Option.bind_eq_bind, Option.pure_def, Option.bind_eq_some_iff] at hq
      obtain ⟨_, _, _, _, _, _, _, _, hq⟩ := hq
      cases hq
      rfl
    have := ih quad h
    simp only [← Array.length_toList, Array.toList_appendList, List.length_append,
      List.length_cons] at this ⊢
    omega
  | case4 => cases h

private theorem value?_symbol : ∀ n, n < 64 → value? (symbol n) = some n := by decide

/-- A symbol is read as the value it was written for. -/
theorem value?_symbol_of_lt {n : Nat} (h : n < 64) : value? (symbol n) = some n :=
  value?_symbol n h

end Discern.Base64
