import Discern.Proofs.Decoder.Base64Flow

/-!
# Encoded bytes

A base64 text that was written for some bytes writes these bytes again
(`Base64.decode?_encode`).  Where such a text is cut, the quads in front of the cut write the
bytes that they were written for, and have no flaw (`Base64.clear_take_encode`).
-/

namespace Discern

namespace Base64

/-- What stands in a base64 text: a symbol of the alphabet, or padding. -/
def isText (b : UInt8) : Bool := (value? b).isSome || b == pad

theorem value?_pad : value? pad = none := by decide

theorem symbol_ne_pad {n : Nat} (six : n < 64) : symbol n ≠ pad := by
  intro same
  have value := value?_symbol_of_lt six
  rw [same, value?_pad] at value
  cases value

/-- Symbols of the alphabet are text. -/
theorem isText_symbol {n : Nat} (six : n < 64) : isText (symbol n) = true := by
  rw [isText, value?_symbol_of_lt six]
  rfl

/-- No blank stands in a base64 text. -/
theorem not_isBlankByte_of_isText {b : UInt8} (text : isText b = true) : isBlankByte b = false := by
  by_contra blank
  simp only [isBlankByte, Bool.not_eq_false, Bool.or_eq_true, beq_iff_eq] at blank
  obtain (((rfl | rfl) | rfl) | rfl) | rfl := blank <;> cases text

section Quads

variable (x y z : UInt8)

/-- The quad that is written for three bytes writes them. -/
theorem lastQuad_three :
    lastQuad (symbol (x.toNat / 4)) (symbol (x.toNat % 4 * 16 + y.toNat / 16))
      (symbol (y.toNat % 16 * 4 + z.toNat / 64)) (symbol (z.toNat % 64)) = some [x, y, z] := by
  have hx := x.toNat_lt
  have hy := y.toNat_lt
  have hz := z.toNat_lt
  rw [lastQuad_of_ne_pad (symbol_ne_pad (by omega)), fullQuad, value?_symbol_of_lt (by omega),
    value?_symbol_of_lt (by omega), value?_symbol_of_lt (by omega),
    value?_symbol_of_lt (by omega)]
  have first : x.toNat / 4 * 4 + (x.toNat % 4 * 16 + y.toNat / 16) / 16 = x.toNat := by omega
  have second : (x.toNat % 4 * 16 + y.toNat / 16) % 16 * 16 +
      (y.toNat % 16 * 4 + z.toNat / 64) / 4 = y.toNat := by omega
  have third : (y.toNat % 16 * 4 + z.toNat / 64) % 4 * 64 + z.toNat % 64 = z.toNat := by omega
  simp only [Option.bind_eq_bind, Option.bind_some, Option.pure_def, first, second, third,
    Nat.toUInt8_eq, UInt8.ofNat_toNat]

/-- Two bytes at the end are read back from three symbols. -/
theorem lastQuad_two :
    lastQuad (symbol (x.toNat / 4)) (symbol (x.toNat % 4 * 16 + y.toNat / 16))
      (symbol (y.toNat % 16 * 4)) pad = some [x, y] := by
  have hx := x.toNat_lt
  have hy := y.toNat_lt
  rw [lastQuad, if_pos rfl, if_neg (symbol_ne_pad (by omega)), value?_symbol_of_lt (by omega),
    value?_symbol_of_lt (by omega), value?_symbol_of_lt (by omega)]
  have first : x.toNat / 4 * 4 + (x.toNat % 4 * 16 + y.toNat / 16) / 16 = x.toNat := by omega
  have second : (x.toNat % 4 * 16 + y.toNat / 16) % 16 * 16 + y.toNat % 16 * 4 / 4 =
      y.toNat := by omega
  have unused : y.toNat % 16 * 4 % 4 = 0 := by omega
  simp only [Option.bind_eq_bind, Option.bind_some, if_pos unused, first, second,
    Nat.toUInt8_eq, UInt8.ofNat_toNat]

/-- One byte at the end is read back from two symbols. -/
theorem lastQuad_one :
    lastQuad (symbol (x.toNat / 4)) (symbol (x.toNat % 4 * 16)) pad pad = some [x] := by
  have hx := x.toNat_lt
  rw [lastQuad, if_pos rfl, if_pos rfl, value?_symbol_of_lt (by omega),
    value?_symbol_of_lt (by omega)]
  have first : x.toNat / 4 * 4 + x.toNat % 4 * 16 / 16 = x.toNat := by omega
  have unused : x.toNat % 4 * 16 % 16 = 0 := by omega
  simp only [Option.bind_eq_bind, Option.bind_some, if_pos unused, first, Nat.toUInt8_eq,
    UInt8.ofNat_toNat]

end Quads

/-- Encoded bytes fill quads. -/
theorem length_encode : ∀ payload : Bytes, (encode payload).length = 4 * ((payload.length + 2) / 3)
  | [] | [_] | [_, _] => by simp only [encode, List.length_cons, List.length_nil]
  | _ :: _ :: _ :: rest => by
      simp only [encode, List.length_cons, length_encode rest]
      omega

/-- **Nothing but symbols and padding** is written for bytes. -/
theorem isText_of_mem_encode : ∀ (payload : Bytes) {b : UInt8}, b ∈ encode payload →
    isText b = true
  | [], _, member => absurd member List.not_mem_nil
  | [x], b, member => by
      have hx := x.toNat_lt
      simp only [encode, List.mem_cons, List.not_mem_nil, or_false] at member
      obtain rfl | rfl | rfl | rfl := member
      · exact isText_symbol (by omega)
      · exact isText_symbol (by omega)
      · rfl
      · rfl
  | [x, y], b, member => by
      have hx := x.toNat_lt
      have hy := y.toNat_lt
      simp only [encode, List.mem_cons, List.not_mem_nil, or_false] at member
      obtain rfl | rfl | rfl | rfl := member
      · exact isText_symbol (by omega)
      · exact isText_symbol (by omega)
      · exact isText_symbol (by omega)
      · rfl
  | x :: y :: z :: rest, b, member => by
      have hx := x.toNat_lt
      have hy := y.toNat_lt
      have hz := z.toNat_lt
      simp only [encode, List.mem_cons] at member
      obtain rfl | rfl | rfl | rfl | later := member
      · exact isText_symbol (by omega)
      · exact isText_symbol (by omega)
      · exact isText_symbol (by omega)
      · exact isText_symbol (by omega)
      · exact isText_of_mem_encode rest later

/-- An encoding has no blanks. -/
theorem not_isBlankByte_of_mem_encode {payload : Bytes} {b : UInt8} (member : b ∈ encode payload) :
    isBlankByte b = false :=
  not_isBlankByte_of_isText (isText_of_mem_encode payload member)

/-- **The beginning of an encoding** writes the bytes of its complete quads. -/
theorem clear_take_encode (payload : Bytes) (m : Nat) :
    clear false ((encode payload).take m) = (payload.take (m / 4 * 3), false) := by
  by_cases short : m < 4
  · have no_quad : m / 4 * 3 = 0 := by omega
    rw [clear_of_short (Nat.lt_of_le_of_lt (List.length_take_le m _) short), no_quad,
      List.take_zero]
  · obtain ⟨m, rfl⟩ := Nat.exists_eq_add_of_le' (Nat.le_of_not_lt short)
    have more : (m + 4) / 4 * 3 = m / 4 * 3 + 3 := by omega
    rw [more]
    match payload with
    | [] => rfl
    | [x] =>
        rw [encode]
        simp only [List.take_succ_cons, List.take_nil]
        rw [clear_quad (lastQuad_one x)]
        rfl
    | [x, y] =>
        rw [encode]
        simp only [List.take_succ_cons, List.take_nil]
        rw [clear_quad (lastQuad_two x y)]
        rfl
    | x :: y :: z :: rest =>
        have unpadded : (symbol (z.toNat % 64) == pad) = false :=
          beq_eq_false_iff_ne.mpr (symbol_ne_pad (by omega))
        rw [encode]
        simp only [List.take_succ_cons]
        rw [clear_quad (lastQuad_three x y z), unpadded, clear_take_encode rest m]
        rfl

/-- Complete quads without a flaw are decoded at a time. -/
theorem decode?_of_clear {symbols : Bytes} (whole : symbols.length % 4 = 0)
    (unflawed : (clear false symbols).2 = false) :
    decode? symbols = some (clear false symbols).1 := by
  cases decoded : decode? symbols with
  | none =>
      have flawed := (clear_append_of_flaw symbols [] whole decoded).1
      rw [List.append_nil, unflawed] at flawed
      cases flawed
  | some bytes =>
      by_cases empty : symbols = []
      · subst empty
        cases decoded
        rfl
      · have split := clear_append_of_decode symbols [] empty decoded
        have nothing : clear (isPadded symbols) [] = ([], false) := clear_of_short (Nat.succ_pos 3)
        rw [List.append_nil, nothing, List.append_nil] at split
        rw [split]

/-- Whole quads of an encoding decode to as many bytes of the payload as they stand for. -/
theorem decode?_take_encode (payload : Bytes) {m : Nat} (whole : m % 4 = 0) :
    decode? ((encode payload).take m) = some (payload.take (m / 4 * 3)) := by
  have quads : ((encode payload).take m).length % 4 = 0 := by
    rw [List.length_take, length_encode]
    omega
  have written := clear_take_encode payload m
  rw [decode?_of_clear quads (congrArg Prod.snd written), written]

/-- **What was encoded is decoded again.** -/
theorem decode?_encode (payload : Bytes) : decode? (encode payload) = some payload := by
  have length := length_encode payload
  have decoded := decode?_take_encode payload (m := (encode payload).length) (by omega)
  rwa [List.take_length, List.take_of_length_le (by omega)] at decoded

end Base64

end Discern
