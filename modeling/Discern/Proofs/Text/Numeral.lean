import Discern.Proofs.Text.Cut
import Discern.Word

/-!
# Numerals

`Word.read64?` reads a row of decimal digits, with at most one `+` before it, as the number that
the digits write, if that is a word.
-/

namespace Discern

namespace Word

variable {n : Nat} {cs : List Char}

/-- **A decimal numeral:** at least one digit, with at most one `+` before the first. -/
def Numeral (cs : List Char) (n : Nat) : Prop :=
  ∃ digits : List Char, digits ≠ [] ∧ (∀ c ∈ digits, c.isDigit = true) ∧
    Nat.ofDigitChars 10 digits 0 = n ∧ (cs = digits ∨ cs = '+' :: digits)

theorem isDigit_iff {c : Char} : c.isDigit = true ↔ '0' ≤ c ∧ c ≤ '9' := by
  simp only [Char.isDigit, Bool.and_eq_true, decide_eq_true_eq]
  rfl

theorem isBlank_of_isDigit {c : Char} (isDigit : c.isDigit = true) : Text.isBlank c = false := by
  have low : 48 ≤ c.toNat := (isDigit_iff.1 isDigit).1
  have high : c.toNat ≤ 57 := (isDigit_iff.1 isDigit).2
  simp only [Text.isBlank, Bool.or_eq_false_iff, Bool.and_eq_false_iff, decide_eq_false_iff_not,
    beq_eq_false_iff_ne]
  omega

/-- Reading digits succeeds exactly on digits, with their value in base ten. -/
theorem readDigits_eq_some_iff {value : Nat} :
    readDigits value cs = some n ↔
      (∀ c ∈ cs, c.isDigit = true) ∧ Nat.ofDigitChars 10 cs value = n := by
  induction cs generalizing value with
  | nil => simp [readDigits]
  | cons c cs ih =>
      rw [readDigits, digit?, List.forall_mem_cons, Nat.ofDigitChars_cons]
      by_cases isDigit : c.isDigit = true
      · rw [if_pos (isDigit_iff.1 isDigit), and_iff_right isDigit]
        exact ih
      · rw [if_neg (mt isDigit_iff.2 isDigit)]
        exact iff_of_false nofun fun written => isDigit written.1.1

/-- A number is read exactly off its numerals. -/
theorem readNat?_eq_some_iff : readNat? cs = some n ↔ Numeral cs n := by
  unfold readNat?
  split
  · refine iff_of_false nofun ?_
    rintro ⟨digits, some, -, -, rfl | plus⟩
    · exact some rfl
    · cases plus
  · refine iff_of_false nofun ?_
    rintro ⟨digits, some, isDigit, -, rfl | plus⟩
    · cases isDigit '+' (.head _)
    · cases plus
      exact some rfl
  · rename_i digits more
    rw [readDigits_eq_some_iff]
    constructor
    · rintro ⟨isDigit, value⟩
      exact ⟨digits, fun none => more none, isDigit, value, .inr rfl⟩
    · rintro ⟨written, -, isDigit, value, rfl | plus⟩
      · cases isDigit '+' (.head _)
      · cases plus
        exact ⟨isDigit, value⟩
  · rename_i nonempty _ signless
    rw [readDigits_eq_some_iff]
    constructor
    · rintro ⟨isDigit, value⟩
      exact ⟨cs, nonempty, isDigit, value, .inl rfl⟩
    · rintro ⟨written, -, isDigit, value, rfl | plus⟩
      · exact ⟨isDigit, value⟩
      · exact absurd plus (signless written)

/-- A word is read exactly off the numerals of its value, so none is read beyond it. -/
theorem read64?_eq_some_iff {n : UInt64} : read64? cs = some n ↔ Numeral cs n.toNat := by
  rw [← readNat?_eq_some_iff, read64?]
  cases readNat? cs with
  | none => exact iff_of_false nofun nofun
  | some m =>
      dsimp only
      by_cases fits : m < UInt64.size
      · rw [if_pos fits, Option.some.injEq, Option.some.injEq]
        constructor
        · rintro rfl
          exact (UInt64.toNat_ofNat_of_lt' fits).symm
        · rintro rfl
          exact UInt64.ofNat_toNat
      · rw [if_neg fits]
        refine iff_of_false nofun fun same => fits ?_
        rw [Option.some.inj same]
        exact n.toNat_lt

/-- A numeral has no blank at either end. -/
theorem Numeral.bare (numeral : Numeral cs n) : Text.Bare cs := by
  obtain ⟨digits, some, isDigit, -, written⟩ := numeral
  refine Text.bare_of_forall ?_ ?_
  · rintro rfl
    rcases written with rfl | plus
    · exact some rfl
    · cases plus
  · rcases written with rfl | rfl
    · exact fun c mem => isBlank_of_isDigit (isDigit c mem)
    · rintro c (_ | ⟨_, mem⟩)
      · rfl
      · exact isBlank_of_isDigit (isDigit c mem)

/-- The digits of a number are a numeral. -/
theorem numeral_toDigits (n : Nat) : Numeral (Nat.toDigits 10 n) n :=
  ⟨_, Nat.toDigits_ne_nil, fun _ => Nat.isDigit_of_mem_toDigits (by decide) (by decide),
    Nat.ofDigitChars_ten_toDigits, .inl rfl⟩

/-- **A numeral with blanks around it.** -/
def Padded (cs : List Char) (n : UInt64) : Prop :=
  ∃ before inner after, cs = before ++ inner ++ after ∧ Text.Blanks before ∧ Text.Blanks after ∧
    Numeral inner n.toNat

/-- A trimmed text is read exactly if it is a numeral between blanks. -/
theorem read64?_trim_eq_some_iff {n : UInt64} :
    read64? (Text.trim cs) = some n ↔ Padded cs n := by
  rw [read64?_eq_some_iff]
  constructor
  · intro numeral
    obtain ⟨before, after, split, front, back⟩ := Text.exists_trim cs
    exact ⟨before, _, after, split, front, back, numeral⟩
  · rintro ⟨before, inner, after, rfl, front, back, numeral⟩
    rwa [Text.trim_of_bare front numeral.bare back]

/-- A numeral is padded with no blanks. -/
theorem Numeral.padded {n : UInt64} (numeral : Numeral cs n.toNat) : Padded cs n :=
  ⟨[], cs, [], (List.append_nil cs).symm, nofun, nofun, numeral⟩

namespace Padded

variable {n : UInt64}

/-- Trimming a padded numeral leaves it padded with none. -/
theorem trim (padded : Padded cs n) : Padded (Text.trim cs) n := by
  rw [← read64?_trim_eq_some_iff, Text.trim_trim]
  exact read64?_trim_eq_some_iff.2 padded

/-- More blanks around a padded numeral leave it one of the same word. -/
theorem pad {left right : List Char} (padded : Padded cs n) (front : Text.Blanks left)
    (back : Text.Blanks right) : Padded (left ++ cs ++ right) n := by
  obtain ⟨before, inner, after, rfl, first, last, numeral⟩ := padded
  exact ⟨left ++ before, inner, after ++ right, by simp, front.append first, last.append back,
    numeral⟩

/-- The blanks before a numeral can be cut off. -/
theorem exists_start (padded : Padded cs n) : ∃ before left, cs = before ++ left ∧
    Text.Blanks before ∧ Padded left n ∧ ∃ c ∈ left.head?, Text.isBlank c = false := by
  obtain ⟨before, inner, after, rfl, front, back, numeral⟩ := padded
  obtain ⟨c, starts, bare⟩ := numeral.bare.1
  exact ⟨before, inner ++ after, List.append_assoc .., front,
    ⟨[], inner, after, rfl, nofun, back, numeral⟩,
    c, List.mem_head?_append_of_mem_head? starts, bare⟩

/-- The blanks after a numeral can be cut off. -/
theorem exists_end (padded : Padded cs n) : ∃ left after, cs = left ++ after ∧
    Text.Blanks after ∧ Padded left n ∧ ∃ c ∈ left.getLast?, Text.isBlank c = false := by
  obtain ⟨before, inner, after, rfl, front, back, numeral⟩ := padded
  obtain ⟨c, ends, bare⟩ := numeral.bare.2
  exact ⟨before ++ inner, after, rfl, back,
    ⟨before, inner, [], (List.append_nil _).symm, front, nofun, numeral⟩,
    c, List.mem_getLast?_append_of_mem_getLast? ends, bare⟩

/-- No numeral contains a character that is no blank, no digit and no `+`. -/
theorem not_mem {c : Char} (padded : Padded cs n) (bare : Text.isBlank c = false)
    (other : c.isDigit = false) (noSign : c ≠ '+') : c ∉ cs := by
  obtain ⟨before, inner, after, rfl, front, back, digits, -, isDigit, -, written⟩ := padded
  have notDigit : c ∉ digits := fun mem => by simp [isDigit c mem] at other
  have notInner : c ∉ inner := by
    rcases written with rfl | rfl
    · exact notDigit
    · exact fun mem => (List.mem_cons.1 mem).elim noSign notDigit
  intro mem
  rcases List.mem_append.1 mem with mem | mem
  · rcases List.mem_append.1 mem with mem | mem
    · simp [front c mem] at bare
    · exact notInner mem
  · simp [back c mem] at bare

end Padded

end Word

end Discern
