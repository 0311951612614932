/-!
# Blank characters and trimming

Two classes of blank characters decide where a text begins and ends.
`isBlank` is the Unicode property *White_Space*; `isAsciiBlank` holds for the
five ASCII characters that separate the words of a byte pattern.  `trim` cuts
the first class off both ends of a text.

The lemmas say that trimming is idempotent and that it commutes with every
character map that keeps blanks apart from the rest.
-/

namespace Discern.Text

/-- The Unicode property *White_Space*. -/
def isBlank (c : Char) : Bool :=
  let n := c.toNat
  (0x09 ≤ n && n ≤ 0x0D) || n == 0x20 || n == 0x85 || n == 0xA0 || n == 0x1680 ||
    (0x2000 ≤ n && n ≤ 0x200A) || n == 0x2028 || n == 0x2029 || n == 0x202F ||
    n == 0x205F || n == 0x3000

/-- Space, tab, line feed, form feed and carriage return; the vertical tab is
not among them. -/
def isAsciiBlank (c : Char) : Bool :=
  c == ' ' || c == '\t' || c == '\n' || c == '\x0c' || c == '\r'

/-- Drop the blanks before the text. -/
def trimStart (cs : List Char) : List Char := cs.dropWhile isBlank

/-- Drop the blanks after the text. -/
def trimEnd (cs : List Char) : List Char := (cs.reverse.dropWhile isBlank).reverse

/-- Drop the blanks on both sides of the text. -/
def trim (cs : List Char) : List Char := trimEnd (trimStart cs)

/-- `trim` on strings. -/
def trimmed (s : String) : String := String.ofList (trim s.toList)

section Lemmas

variable {f : Char → Char}

private theorem dropWhile_map (hf : ∀ c, isBlank (f c) = isBlank c) (cs : List Char) :
    (cs.map f).dropWhile isBlank = (cs.dropWhile isBlank).map f := by
  induction cs with
  | nil => rfl
  | cons c cs ih => by_cases h : isBlank c <;> simp [hf, h, ih]

/-- A map that keeps blanks blank and the rest not blank passes through `trim`. -/
theorem trim_map (hf : ∀ c, isBlank (f c) = isBlank c) (cs : List Char) :
    trim (cs.map f) = (trim cs).map f := by
  simp [trim, trimEnd, trimStart, dropWhile_map hf, ← List.map_reverse]

private theorem dropWhile_dropWhile (cs : List Char) :
    (cs.dropWhile isBlank).dropWhile isBlank = cs.dropWhile isBlank := by
  induction cs with
  | nil => rfl
  | cons c cs ih => by_cases h : isBlank c <;> simp [h, ih]

/-- What is left after dropping blanks from the end still starts as before. -/
private theorem head?_trimEnd {cs : List Char} {c : Char} (h : cs.head? = some c)
    (hc : isBlank c = false) : (trimEnd cs).head? = some c := by
  cases cs with
  | nil => simp at h
  | cons d ds =>
    obtain rfl : d = c := by simpa using h
    unfold trimEnd
    rw [List.reverse_cons, List.dropWhile_append]
    split
    · simp [hc]
    · simp

private theorem dropWhile_eq_self {cs : List Char}
    (h : ∀ c, cs.head? = some c → isBlank c = false) : cs.dropWhile isBlank = cs := by
  cases cs with
  | nil => rfl
  | cons c cs => simp [h c rfl]

/-- The character that stops a `dropWhile` is not blank. -/
private theorem head?_dropWhile {cs : List Char} {c : Char}
    (h : (cs.dropWhile isBlank).head? = some c) : isBlank c = false := by
  induction cs with
  | nil => simp at h
  | cons d ds ih =>
    by_cases hd : isBlank d
    · simp [hd] at h
      exact ih h
    · obtain rfl : d = c := by simpa [List.dropWhile_cons, hd] using h
      simpa using hd

/-- Trimming a trimmed text changes nothing. -/
theorem trim_trim (cs : List Char) : trim (trim cs) = trim cs := by
  have start : trimStart (trim cs) = trim cs := by
    apply dropWhile_eq_self
    intro c hc
    cases hcs : (trimStart cs).head? with
    | none =>
      have : trimStart cs = [] := by simpa using hcs
      simp [trim, this, trimEnd] at hc
    | some d =>
      have hd := head?_dropWhile hcs
      have := head?_trimEnd hcs hd
      rw [trim, this] at hc
      obtain rfl : d = c := by simpa using hc
      exact hd
  rw [trim, start, trim, trimEnd, trimEnd]
  simp [dropWhile_dropWhile]

/-- An ASCII capital and its small letter are both no blanks. -/
theorem isBlank_toLower (c : Char) : isBlank c.toLower = isBlank c := by
  unfold Char.toLower
  split
  · rename_i h
    have low : 65 ≤ c.toNat ∧ c.toNat ≤ 90 := h
    have value : (c.val + ('a'.val - 'A'.val)).toNat = c.toNat + 32 := by
      change (c.val + 32).toNat = c.val.toNat + 32
      have : c.val.toNat ≤ 90 := low.2
      rw [UInt32.toNat_add]
      change (c.val.toNat + 32) % 4294967296 = c.val.toNat + 32
      omega
    have lower : ∀ n : Nat, 65 ≤ n → n ≤ 122 →
        ((0x09 ≤ n && n ≤ 0x0D) || n == 0x20 || n == 0x85 || n == 0xA0 || n == 0x1680 ||
          (0x2000 ≤ n && n ≤ 0x200A) || n == 0x2028 || n == 0x2029 || n == 0x202F ||
          n == 0x205F || n == 0x3000) = false := by
      intro n h₁ h₂
      simp
      omega
    have left := lower (c.val + ('a'.val - 'A'.val)).toNat (by omega) (by omega)
    have right := lower c.toNat (by omega) (by omega)
    simp only [isBlank]
    exact left.trans right.symm
  · rfl

end Lemmas

end Discern.Text
