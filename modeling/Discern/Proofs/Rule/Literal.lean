import Discern.Proofs.Rule.LiteralGrammar

/-!
# The texts of a literal

A literal asks for bytes, and there are many texts for the same bytes: each byte can be written as
an escape, and that of a printable ASCII character as this character.  `Literal.Written` says which
texts are written for which bytes, and `Literal.read_of_written` that each of them is read back.
-/

namespace Discern

open Text

namespace Literal

/-- A printable ASCII character that does not begin an escape. -/
def Plain (c : Char) : Prop := ' ' ≤ c ∧ c ≤ '~' ∧ c ≠ '\\'

instance (c : Char) : Decidable (Plain c) := inferInstanceAs (Decidable (_ ∧ _ ∧ _))

/-- **How a byte is written:** as an escape with two digits of either case, or as a character. -/
inductive Spells : List Char → UInt8 → Prop
  | escaped {high low h l} : Hex.Digit high h → Hex.Digit low l →
      Spells ['\\', 'x', high, low] (16 * h + l)
  | plain {c} : Plain c → Spells [c] (UInt8.ofNat c.toNat)

/-- **How bytes are written,** one after the other. -/
inductive Written : List Char → Bytes → Prop
  | done : Written [] []
  | next {spelled byte text bytes} : Spells spelled byte → Written text bytes →
      Written (spelled ++ text) (byte :: bytes)

variable {text spelled : List Char} {bytes : Bytes} {byte : UInt8} {c : Char}

/-- A text of plain characters is written for the bytes with their numbers. -/
theorem written_of_plain (plain : ∀ c ∈ text, Plain c) :
    Written text (text.map fun c => UInt8.ofNat c.toNat) := by
  induction text with
  | nil => exact .done
  | cons c text ih =>
      obtain ⟨first, rest⟩ := List.forall_mem_cons.1 plain
      exact .next (.plain first) (ih rest)

/-- Any bytes can be written. -/
theorem exists_written (bytes : Bytes) : ∃ text, Written text bytes := by
  induction bytes with
  | nil => exact ⟨[], .done⟩
  | cons byte bytes ih =>
      obtain ⟨text, written⟩ := ih
      obtain ⟨h, l, isHigh, isLow, rfl⟩ := Hex.pair?_eq_some_iff.1 (Hex.pair?_lower byte)
      exact ⟨_, .next (.escaped isHigh isLow) written⟩

/-! ## The characters of a text -/

/-- Plain characters are printable. -/
theorem Plain.toNat (plain : Plain c) : 32 ≤ c.toNat ∧ c.toNat < 128 := by
  have first : 32 ≤ c.toNat := plain.1
  have last : c.toNat ≤ 126 := plain.2.1
  omega

/-- A byte is spelled by printable characters. -/
theorem Spells.toNat (spells : Spells spelled byte) :
    ∀ c ∈ spelled, 32 ≤ c.toNat ∧ c.toNat < 128 := by
  cases spells with
  | escaped isHigh isLow =>
      have high := isHigh.toNat
      have low := isLow.toNat
      intro c member
      simp only [List.mem_cons, List.not_mem_nil, or_false] at member
      rcases member with rfl | rfl | rfl | rfl
      · decide
      · decide
      · omega
      · omega
  | plain plain => exact List.forall_mem_singleton.2 plain.toNat

/-- Bytes are written by printable characters. -/
theorem Written.toNat (written : Written text bytes) :
    ∀ c ∈ text, 32 ≤ c.toNat ∧ c.toNat < 128 := by
  induction written with
  | done => nofun
  | next spells _ ih =>
      intro c member
      rcases List.mem_append.1 member with here | later
      · exact spells.toNat c here
      · exact ih c later

/-- The text of a literal has no line end in it. -/
theorem Written.not_mem (written : Written text bytes) (control : c.toNat < 32) : c ∉ text :=
  fun member => Nat.not_lt_of_le (written.toNat c member).1 control

theorem Written.ne_nil (written : Written text bytes) (filled : bytes ≠ []) : text ≠ [] := by
  cases written with
  | done => exact absurd rfl filled
  | next spells _ =>
      apply List.append_ne_nil_of_left_ne_nil
      cases spells <;> exact List.cons_ne_nil _ _

/-! ## Reading -/

/-- What spells a byte is taken for it. -/
theorem Spells.taken (spells : Spells spelled byte) : Taken spelled [byte] := by
  cases spells with
  | escaped isHigh isLow => exact .item (.byte isHigh isLow)
  | @plain c plain =>
      have alone : Utf8.encode [c] = [UInt8.ofNat c.toNat] :=
        Utf8.encode_cons_of_ascii plain.toNat.2 []
      rw [← alone]
      exact .item (.character plain.2.2)

/-- What writes bytes is a row of items. -/
theorem Written.row (written : Written text bytes) : Row Taken text bytes := by
  induction written with
  | done => exact .done
  | next spells _ ih => exact .next spells.taken ih

/-- **What is written for bytes is read back,** unless there are none. -/
theorem read_of_written (written : Written text bytes) (filled : bytes ≠ []) :
    read (String.ofList text) = .ok bytes := by
  rw [read, Utf8.ofString_ofList, scan_of_row written.row]
  exact if_neg (mt List.isEmpty_iff.1 filled)

end Literal

end Discern
