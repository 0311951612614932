/-!
# Bytes and text

A content is a list of bytes.  A text stands in a content as UTF-8; decoding
refuses every byte that does not belong to the one well-formed encoding.
-/

namespace Discern

/-- The bytes of a content or of a part of it. -/
abbrev Bytes := List UInt8

/-- The most bytes that a content in memory can have. -/
def addressable : Nat := 0x7FFFFFFFFFFFFFFF

namespace Utf8

/-- The bytes of a text. -/
def encode (cs : List Char) : Bytes := cs.flatMap String.utf8EncodeChar

/-- The number of bytes of a text. -/
def size : List Char → Nat
  | [] => 0
  | c :: cs => c.utf8Size + size cs

/-- The text that the bytes encode. -/
def decode? (bytes : Bytes) : Option String := String.fromUTF8? ⟨⟨bytes⟩⟩

@[simp] theorem length_encode (cs : List Char) : (encode cs).length = size cs := by
  induction cs with
  | nil => rfl
  | cons c cs ih =>
    have step : encode (c :: cs) = String.utf8EncodeChar c ++ encode cs := rfl
    rw [step, List.length_append, ih, String.length_utf8EncodeChar]
    simp [size]

@[simp] theorem encode_append (a b : List Char) : encode (a ++ b) = encode a ++ encode b := by
  simp [encode]

@[simp] theorem size_append (a b : List Char) : size (a ++ b) = size a + size b := by
  induction a with
  | nil => simp only [List.nil_append, size, Nat.zero_add]
  | cons c a ih => simp only [List.cons_append, size, ih, Nat.add_assoc]

/-- The bytes of a string. -/
def ofString (s : String) : Bytes := s.toUTF8.data.toList

end Utf8

end Discern
