import Discern.Bytes
import Mathlib.Data.List.Basic
import Mathlib.Data.List.TakeWhile

/-!
# The bytes of a text

An ASCII character is encoded as one byte, and no other character has this byte among its own.  So
what is looked for in the bytes of a text is found where it stands among the characters.

A position in the bytes is a boundary if it lies between two characters, or at an end of the text.
-/

namespace Discern

namespace Utf8

theorem ofString_ofList (cs : List Char) : ofString (String.ofList cs) = encode cs := by
  simp [ofString, encode, List.utf8Encode]

variable {c d : Char} {cs before rest text : List Char} {b : UInt8} {front back : Bytes}

/-! ## ASCII characters -/

/-- An ASCII character is encoded as the byte with its number. -/
theorem encode_cons_of_ascii (ascii : c.toNat < 128) (cs : List Char) :
    encode (c :: cs) = UInt8.ofNat c.toNat :: encode cs := by
  have one : c.utf8Size = 1 := Char.utf8Size_eq_one_iff.mpr (Nat.le_of_lt_succ ascii)
  rw [encode, List.flatMap_cons, String.utf8EncodeChar_eq_singleton one]
  rfl

theorem toNat_ofNat_of_ascii (ascii : c.toNat < 128) : (UInt8.ofNat c.toNat).toNat = c.toNat :=
  UInt8.toNat_ofNat_of_lt' (Nat.lt_trans ascii (by decide))

/-- An ASCII character is had back from its byte. -/
theorem ofNat_toNat_of_ascii (ascii : c.toNat < 128) :
    Char.ofNat (UInt8.ofNat c.toNat).toNat = c := by
  rw [toNat_ofNat_of_ascii ascii, Char.ofNat_toNat]

theorem toNat_ofNat_toNat (b : UInt8) : (Char.ofNat b.toNat).toNat = b.toNat := by
  have small : b.toNat < 55296 := Nat.lt_trans b.toNat_lt (by decide)
  rw [Char.ofNat, dif_pos (.inl small)]
  rfl

/-- All bytes of a character that is not ASCII are none of an ASCII character. -/
theorem le_toNat_of_wide (wide : ¬ c.toNat < 128) :
    ∀ b ∈ String.utf8EncodeChar c, 128 ≤ b.toNat := by
  have marked : ∀ (b : UInt8) {mark : UInt8}, 128 ≤ mark.toNat → 128 ≤ (b ||| mark).toNat := by
    intro b mark high
    rw [UInt8.toNat_or]
    exact Nat.le_trans high Nat.right_le_or
  rcases Char.utf8Size_eq c with one | two | three | four
  · exact absurd (Nat.lt_succ_of_le (Char.utf8Size_eq_one_iff.1 one)) wide
  · rw [String.utf8EncodeChar_eq_cons_cons two]
    simp only [List.forall_mem_cons, List.not_mem_nil, false_imp_iff, implies_true, and_true]
    exact ⟨marked _ (by decide), marked _ (by decide)⟩
  · rw [String.utf8EncodeChar_eq_cons_cons_cons three]
    simp only [List.forall_mem_cons, List.not_mem_nil, false_imp_iff, implies_true, and_true]
    exact ⟨marked _ (by decide), marked _ (by decide), marked _ (by decide)⟩
  · rw [String.utf8EncodeChar_eq_cons_cons_cons_cons four]
    simp only [List.forall_mem_cons, List.not_mem_nil, false_imp_iff, implies_true, and_true]
    exact ⟨marked _ (by decide), marked _ (by decide), marked _ (by decide),
      marked _ (by decide)⟩

/-- The first byte of a character. -/
def lead (c : Char) : UInt8 := (String.utf8EncodeChar c).headD 0

/-- Every character is encoded as its lead byte and perhaps some behind it. -/
theorem exists_utf8EncodeChar (c : Char) : ∃ more, String.utf8EncodeChar c = lead c :: more := by
  have filled : String.utf8EncodeChar c ≠ [] := by
    rw [← List.length_pos_iff, String.length_utf8EncodeChar]
    exact c.utf8Size_pos
  obtain ⟨first, more, bytes⟩ := List.exists_cons_of_ne_nil filled
  exact ⟨more, by rw [lead, bytes]; rfl⟩

/-- The lead byte of a character is one of its bytes. -/
theorem lead_mem (c : Char) : lead c ∈ String.utf8EncodeChar c := by
  obtain ⟨more, bytes⟩ := exists_utf8EncodeChar c
  rw [bytes]
  exact List.mem_cons_self

/-- The ASCII bytes that a text begins with are its first characters. -/
theorem exists_of_encode_append (ascii : ∀ b ∈ front, b.toNat < 128)
    (same : encode cs = front ++ back) :
    ∃ rest, cs = front.map (fun b => Char.ofNat b.toNat) ++ rest ∧ encode rest = back := by
  induction front generalizing cs with
  | nil => exact ⟨cs, rfl, same⟩
  | cons b front ih =>
      obtain ⟨low, later⟩ := List.forall_mem_cons.1 ascii
      cases cs with
      | nil => cases same
      | cons c cs =>
          by_cases narrow : c.toNat < 128
          · rw [encode_cons_of_ascii narrow] at same
            obtain ⟨rfl, behind⟩ := List.cons.inj same
            obtain ⟨rest, rfl, encoded⟩ := ih later behind
            exact ⟨rest, by rw [List.map_cons, ofNat_toNat_of_ascii narrow]; rfl, encoded⟩
          · obtain ⟨more, bytes⟩ := exists_utf8EncodeChar c
            rw [encode, List.flatMap_cons, bytes] at same
            obtain ⟨rfl, -⟩ := List.cons.inj same
            exact absurd low (Nat.not_lt_of_le (le_toNat_of_wide narrow _ (lead_mem c)))

/-- A byte of a character is that of an ASCII character only if the character is. -/
theorem eq_toUInt8_iff (member : b ∈ String.utf8EncodeChar c) (ascii : d.toNat < 128) :
    b = d.toUInt8 ↔ c = d := by
  have number : d.toUInt8.toNat = d.toNat := toNat_ofNat_of_ascii ascii
  by_cases narrow : c.toNat < 128
  · have one : c.utf8Size = 1 := Char.utf8Size_eq_one_iff.mpr (Nat.le_of_lt_succ narrow)
    rw [String.utf8EncodeChar_eq_singleton one, List.mem_singleton] at member
    subst member
    constructor
    · intro same
      rw [← ofNat_toNat_of_ascii narrow, ← ofNat_toNat_of_ascii ascii]
      exact congrArg (fun b : UInt8 => Char.ofNat b.toNat) same
    · rintro rfl
      rfl
  · have high := le_toNat_of_wide narrow b member
    refine iff_of_false ?_ ?_
    · rintro rfl
      omega
    · rintro rfl
      exact narrow ascii

/-- An encoded text begins with the lead byte of its first character. -/
theorem head?_encode (cs : List Char) : (encode cs).head? = cs.head?.map lead := by
  cases cs with
  | nil => rfl
  | cons c cs =>
      obtain ⟨more, bytes⟩ := exists_utf8EncodeChar c
      rw [encode, List.flatMap_cons, bytes]
      rfl

/-- A search among bytes finds what it would among characters, if it treats the bytes of a
character alike. -/
theorem takeWhile_encode {p : UInt8 → Bool} {q : Char → Bool}
    (alike : ∀ c, ∀ b ∈ String.utf8EncodeChar c, p b = q c) (cs : List Char) :
    (encode cs).takeWhile p = encode (cs.takeWhile q) := by
  induction cs with
  | nil => rfl
  | cons c cs ih =>
      have step : encode (c :: cs) = String.utf8EncodeChar c ++ encode cs := List.flatMap_cons ..
      rw [step]
      cases kept : q c with
      | true =>
          have all : ∀ b ∈ String.utf8EncodeChar c, p b = true :=
            fun b member => (alike c b member).trans kept
          rw [List.takeWhile_append_of_pos all, ih, List.takeWhile_cons_of_pos kept]
          exact (List.flatMap_cons ..).symm
      | false =>
          obtain ⟨more, bytes⟩ := exists_utf8EncodeChar c
          have stops : p (lead c) = false := (alike c _ (lead_mem c)).trans kept
          rw [bytes, List.cons_append, List.takeWhile_cons_of_neg (by simp [stops]),
            List.takeWhile_cons_of_neg (by simp [kept])]
          rfl

/-! ## Positions -/

/-- **A position between two characters** of a text, or at one of its ends. -/
def Boundary (text : List Char) (position : Nat) : Prop :=
  ∃ before after, text = before ++ after ∧ size before = position

/-- Where an end of a text begins. -/
def offset (text rest : List Char) : Nat := size text - size rest

/-- What stands at the rest of a text is as far in as what is before it is long. -/
theorem offset_append (before rest : List Char) : offset (before ++ rest) rest = size before := by
  rw [offset, size_append, Nat.add_sub_cancel]

theorem offset_self (text : List Char) : offset text text = 0 := Nat.sub_self _

/-- The rest of a text begins at a boundary between characters. -/
theorem boundary_offset (inside : rest <:+ text) : Boundary text (offset text rest) := by
  obtain ⟨before, rfl⟩ := inside
  exact ⟨before, rest, rfl, (offset_append before rest).symm⟩

/-- Going over a part moves the offset by the size of the part. -/
theorem offset_add (inside : before ++ rest <:+ text) :
    offset text (before ++ rest) + size before = offset text rest := by
  obtain ⟨first, rfl⟩ := inside
  rw [offset_append, ← List.append_assoc, offset_append, size_append]

/-- The bytes from the offset of the rest are those of the rest. -/
theorem drop_encode_offset (inside : rest <:+ text) :
    (encode text).drop (offset text rest) = encode rest := by
  obtain ⟨before, rfl⟩ := inside
  rw [offset_append, encode_append, ← length_encode, List.drop_left]

end Utf8

end Discern
