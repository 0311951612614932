import Discern.Proofs.Decoder.Encoding
import Discern.Proofs.Stream.LimitedView
import Mathlib.Algebra.Order.Floor.Semiring
import Mathlib.Data.Rat.Floor

/-!
# The budget of base64 text in lines

The base64 decoder asks for 1.4 encoded bytes for each decoded one, and for four more.  In lines
of 64 symbols or more this covers the line ends: under a limit a decoded view delivers as many
bytes as the limit says (`Base64.limited_lines_suffice`).

A line of 64 symbols takes 66 bytes, so that `32 / 33` of the text are symbols at least
(`Base64.InLines.take_prefix`), and `1.4` is more than the `33 / 32 * 4 / 3` that a byte takes in
them (`Decoder.le_outerLimit_base64`).  What a cut quad at the end would write is behind the
limit.
-/

namespace Discern

namespace Ratio

/-- Rounding up is that of the rational number. -/
theorem ceiling_eq (n shift : Nat) : ceiling n shift = ⌈(n / 2 ^ shift : ℚ)⌉₊ := by
  have unit : 0 < 2 ^ shift := Nat.two_pow_pos shift
  refine eq_of_forall_ge_iff fun k => ?_
  rw [Nat.ceil_le, div_le_iff₀ (by positivity)]
  have division : ceiling n shift ≤ k ↔ n ≤ k * 2 ^ shift := by
    change (n + 2 ^ shift - 1) / 2 ^ shift ≤ k ↔ _
    rw [Nat.div_le_iff_le_mul_add_pred unit, Nat.mul_comm]
    omega
  rw [division]
  exact_mod_cast Iff.rfl

/-- Sizes that are not too large are scaled exactly. -/
theorem scale_eq {numerator shift size : Nat} (small : size < 2 ^ precision)
    (product : size * numerator < 2 ^ precision) :
    scale ⟨numerator, shift⟩ size = ⌈(size * numerator / 2 ^ shift : ℚ)⌉₊ := by
  change ceiling (roundSignificand (roundSignificand size * numerator)) shift = _
  rw [roundSignificand_of_lt small, roundSignificand_of_lt product, ceiling_eq, Nat.cast_mul]

end Ratio

namespace Decoder

/-- A budget that fits into a word is exact. -/
theorem outerLimit_of_lt {decoder : Decoder} {n : Nat}
    (fits : decoder.ratio.scale n + decoder.offset.toNat < UInt64.size) :
    decoder.outerLimit n = decoder.ratio.scale n + decoder.offset.toNat := by
  rw [outerLimit, Word.saturatingAdd, Word.toNat_saturate, Word.toNat_saturate]
  omega

/-- The budget for base64 is a rational number rounded up, as long as the size is small. -/
theorem scale_base64 {n : Nat} (small : n ≤ 2 ^ 28) :
    base64.ratio.scale n = ⌈(n * 11744051 / 2 ^ 23 : ℚ)⌉₊ := by
  have digits : 2 ^ Ratio.precision = 2 ^ 53 := rfl
  have scaled : Ratio.scale ⟨(11744051 : Nat), 23⟩ n = ⌈(n * (11744051 : Nat) / 2 ^ 23 : ℚ)⌉₊ :=
    Ratio.scale_eq (by omega) (by omega)
  rwa [Nat.cast_ofNat] at scaled

/-- **The budget for base64 text** is exact. -/
theorem outerLimit_base64 {n : Nat} (small : n ≤ 2 ^ 28) :
    base64.outerLimit n = ⌈(n * (11744051 / 2 ^ 23) : ℚ)⌉₊ + 4 := by
  have scaled := scale_base64 small
  have below : base64.ratio.scale n ≤ 2 * n := by
    rw [scaled, Nat.ceil_le, div_le_iff₀ (by positivity)]
    push_cast
    linarith
  have offset : base64.offset.toNat = 4 := rfl
  have words : UInt64.size = 2 ^ 64 := rfl
  rw [outerLimit_of_lt (by omega), scaled, offset, mul_div_assoc]

/-- Three bytes for four symbols and `32 / 33` of the text are within the budget. -/
theorem le_outerLimit_base64 {n : Nat} (small : n ≤ 2 ^ 28) :
    33 * (4 * ((n + 2) / 3)) ≤ 32 * base64.outerLimit n + 1 := by
  have scaled : (n * (11744051 / 2 ^ 23) : ℚ) ≤ ⌈(n * (11744051 / 2 ^ 23) : ℚ)⌉₊ := Nat.le_ceil _
  rw [outerLimit_base64 small]
  generalize ⌈(n * (11744051 / 2 ^ 23) : ℚ)⌉₊ = whole at scaled ⊢
  have enough : n * 11744051 ≤ whole * 2 ^ 23 := by
    rw [← mul_div_assoc, div_le_iff₀ (by positivity)] at scaled
    exact_mod_cast scaled
  omega

end Decoder

namespace Base64

/-- **A text in lines** of so many symbols, with LF or CRLF between them.  The last line may be
shorter. -/
inductive InLines (width : Nat) : Bytes → Bytes → Prop
  | last {symbols : Bytes} (short : symbols.length ≤ width) : InLines width symbols symbols
  | line {line lineEnd symbols text : Bytes} (full : line.length = width)
      (ends : lineEnd = [10] ∨ lineEnd = [13, 10]) (rest : InLines width symbols text) :
      InLines width (line ++ symbols) (line ++ (lineEnd ++ text))

section Lines

variable {width : Nat} {symbols text : Bytes}

/-- A line end is blank. -/
theorem filter_lineEnd {lineEnd : Bytes} (ends : lineEnd = [10] ∨ lineEnd = [13, 10]) :
    lineEnd.filter (!isBlankByte ·) = [] := by
  obtain rfl | rfl := ends <;> rfl

/-- Nothing is left out of symbols that are not blank. -/
theorem filter_plain (plain : ∀ b ∈ symbols, isBlankByte b = false) :
    symbols.filter (!isBlankByte ·) = symbols :=
  List.filter_eq_self.mpr fun b member => by rw [plain b member]; rfl

/-- Without its blanks a text in lines is its symbols. -/
theorem InLines.filter_eq (lines : InLines width symbols text)
    (plain : ∀ b ∈ symbols, isBlankByte b = false) :
    text.filter (!isBlankByte ·) = symbols := by
  induction lines with
  | last short => exact filter_plain plain
  | line full ends rest ih =>
      obtain ⟨first, others⟩ := List.forall_mem_append.mp plain
      rw [List.filter_append, List.filter_append, filter_plain first, filter_lineEnd ends,
        List.nil_append, ih others]

/-- **Line ends take little room:** with those in front of them, symbols take no more than
`33 / 32` of their number. -/
theorem InLines.take_prefix (lines : InLines width symbols text)
    (plain : ∀ b ∈ symbols, isBlankByte b = false) (wide : 64 ≤ width) {k m : Nat}
    (room : 33 * k ≤ 32 * m + 1) :
    symbols.take k <+: (text.take m).filter (!isBlankByte ·) := by
  induction lines generalizing k m with
  | @last symbols short =>
      have kept : ∀ b ∈ symbols.take m, isBlankByte b = false :=
        fun b member => plain b (List.mem_of_mem_take member)
      rw [filter_plain kept]
      exact List.take_prefix_take_left (by omega)
  | @line line lineEnd symbols text full ends rest ih =>
      obtain ⟨first, others⟩ := List.forall_mem_append.mp plain
      by_cases inside : k ≤ width
      · have kept : ∀ b ∈ line.take k, isBlankByte b = false :=
          fun b member => first b (List.mem_of_mem_take member)
        have here : line.take k <+: (line ++ (lineEnd ++ text)).take m := by
          rw [List.take_append]
          exact (List.take_prefix_take_left (by omega)).trans (List.prefix_append _ _)
        rw [List.take_append_of_le_length (by omega), ← filter_plain kept]
        exact here.filter _
      · have ended : lineEnd.length ≤ 2 := by
          obtain rfl | rfl := ends <;> decide
        have beyond : (line ++ symbols).take k = line ++ symbols.take (k - line.length) := by
          rw [List.take_append, List.take_of_length_le (by omega)]
        have cut : (line ++ (lineEnd ++ text)).take m =
            line ++ (lineEnd ++ text.take (m - line.length - lineEnd.length)) := by
          rw [List.take_append, List.take_append, List.take_of_length_le (by omega),
            List.take_of_length_le (by omega)]
        rw [beyond, cut, List.filter_append, List.filter_append, filter_plain first,
          filter_lineEnd ends, List.nil_append, List.prefix_append_right_inj]
        exact ih others (by omega)

/-- What a cut text still writes, if at least `quads` quads are left of it. -/
theorem take_prefix_clear {payload lead : Bytes} {n : Nat}
    (beginning : lead.filter (!isBlankByte ·) <+: encode payload)
    (enough : (encode payload).take (4 * ((n + 2) / 3)) <+: lead.filter (!isBlankByte ·))
    (inside : n ≤ payload.length) :
    n ≤ (flow ⟨lead, none⟩).bytes.length ∧ (flow ⟨lead, none⟩).bytes.take n = payload.take n := by
  obtain ⟨k, cut⟩ : ∃ k, lead.filter (!isBlankByte ·) = (encode payload).take k :=
    ⟨_, List.prefix_iff_eq_take.mp beginning⟩
  have long := enough.length_le
  have quads := length_encode payload
  have written : (flow ⟨lead, none⟩).bytes = payload.take (k / 4 * 3) := by
    change [] ++ (clear false (lead.filter (!isBlankByte ·))).1 = _
    rw [cut, clear_take_encode, List.nil_append]
  rw [cut, List.length_take, List.length_take] at long
  have reach : n ≤ k / 4 * 3 := by omega
  rw [written, List.length_take, List.take_take, Nat.min_eq_left reach]
  exact ⟨by omega, rfl⟩

end Lines

/-- **A limit on a view of base64 text in lines of at least 64 symbols is met:** the budget is
exact, the symbols of the first quads stand within it, and so many bytes are read. -/
theorem limited_lines_suffice {payload text : Bytes} {n width : Nat} (small : n ≤ 2 ^ 28)
    (inside : n ≤ payload.length) (wide : 64 ≤ width)
    (broken : text = encode payload ∨ InLines width (encode payload) text) {base : ByteStream}
    (shown : (base.setLimit (some (Decoder.base64.outerLimit n))).Shows (some text)) :
    Decoder.base64.outerLimit n = ⌈(n * (11744051 / 2 ^ 23) : ℚ)⌉₊ + 4 ∧
      (encode payload).take (4 * ((n + 2) / 3)) <+:
        (text.take (Decoder.base64.outerLimit n)).filter (!isBlankByte ·) ∧
      (((base.decoded .base64).setLimit (some n)).readUpTo (some n)).1 = .ok (payload.take n) := by
  have plain : ∀ b ∈ encode payload, isBlankByte b = false :=
    fun b member => not_isBlankByte_of_mem_encode member
  -- A text that is not broken is a single line, however wide.
  obtain ⟨width, wide, lines⟩ : ∃ width, 64 ≤ width ∧ InLines width (encode payload) text := by
    rcases broken with rfl | lines
    · exact ⟨max 64 (encode payload).length, Nat.le_max_left _ _, .last (Nat.le_max_right _ _)⟩
    · exact ⟨width, wide, lines⟩
  have covered := lines.take_prefix plain wide (Decoder.le_outerLimit_base64 small)
  refine ⟨Decoder.outerLimit_base64 small, covered, ?_⟩
  have whole := lines.filter_eq plain
  have unflawed : ¬ Flawed text := by
    have clear_encode := clear_take_encode payload (encode payload).length
    rw [List.take_length] at clear_encode
    rw [Flawed, whole, clear_encode]
    exact Bool.false_ne_true
  have beginning : (text.take (Decoder.base64.outerLimit n)).filter (!isBlankByte ·) <+:
      encode payload := by
    rw [← whole]
    exact (List.take_prefix _ text).filter _
  obtain ⟨long, same⟩ := take_prefix_clear beginning covered inside
  have delivers := (Decoder.base64_deliversBy unflawed).delivers_limited shown
  rw [delivers.readUpTo long, same]

/-- The encoding of 60 zero bytes, with a line end behind 64 symbols. -/
def zeroLines : Bytes := List.replicate 64 0x41 ++ ([0x0D, 0x0A] ++ List.replicate 16 0x41)

/-- For 50 bytes the decoder asks for 74 of them, which end within the second line. -/
theorem limited_lines_suffice_zeroLines :
    let base := ByteStream.buffered Cursor.kind.toReader (.start zeroLines) none
    InLines 64 (encode (List.replicate 60 0)) zeroLines ∧
      (base.setLimit (some (Decoder.base64.outerLimit 50))).Shows (some zeroLines) ∧
      Decoder.base64.outerLimit 50 = 74 ∧
      (((base.decoded .base64).setLimit (some 50)).readUpTo (some 50)).1 =
        .ok (List.replicate 50 0) := by
  intro base
  have written : encode (List.replicate 60 0) =
      List.replicate 64 0x41 ++ List.replicate 16 0x41 := by decide
  have lines : InLines 64 (encode (List.replicate 60 0)) zeroLines := by
    rw [written]
    exact .line List.length_replicate (.inr rfl) (.last (by decide))
  have shown : Cursor.kind.toReader.Shows (.start zeroLines) (some zeroLines) := Cursor.shows _
  have limited : (base.setLimit (some (Decoder.base64.outerLimit 50))).Shows (some zeroLines) :=
    Buffered.Left.shows (Buffered.left_start shown (some (Decoder.base64.outerLimit 50)))
  obtain ⟨-, -, read⟩ :=
    limited_lines_suffice (by decide) (by decide) (by decide) (.inr lines) limited
  exact ⟨lines, limited, by decide, read⟩

end Base64

end Discern
