import Discern.Proofs.Decoder.Encoding
import Discern.Rule

/-!
# Base64 text is recognised and unwrapped

A base64 text may be wrapped: blanks may stand anywhere in it.  The decoder brings what was
encoded, however the wrapped text comes in, and where the blanks are line ends the rule for
base64 accepts the beginning of the text (`Base64.wrapped_recognised`).

A content that is shorter than what the rule wants to see is accepted exactly where the
decoder comes to its end (`Rule.accepts_base64_iff`).
-/

namespace Discern

namespace Base64

/-- **Text with blanks put in,** anywhere and as many as one likes. -/
inductive Wrapped (blank : UInt8 → Bool) : Bytes → Bytes → Prop
  | nil : Wrapped blank [] []
  | symbol (symbol : UInt8) {symbols text : Bytes} (wrapped : Wrapped blank symbols text) :
      Wrapped blank (symbol :: symbols) (symbol :: text)
  | blank {b : UInt8} (isBlank : blank b = true) {symbols text : Bytes}
      (wrapped : Wrapped blank symbols text) : Wrapped blank symbols (b :: text)

/-- The bytes that end lines. -/
def isLineEnd (b : UInt8) : Bool := b == 13 || b == 10

/-- Line ends are blank. -/
theorem isBlankByte_of_isLineEnd {b : UInt8} (lineEnd : isLineEnd b = true) :
    isBlankByte b = true := by
  simp only [isLineEnd, Bool.or_eq_true, beq_iff_eq] at lineEnd
  obtain rfl | rfl := lineEnd <;> rfl

/-- No symbol of base64 is a line end. -/
theorem not_isLineEnd_of_isText {b : UInt8} (text : isText b = true) : isLineEnd b = false := by
  have plain := not_isBlankByte_of_isText text
  by_contra lineEnd
  exact Bool.eq_false_iff.mp plain (isBlankByte_of_isLineEnd (Bool.of_not_eq_false lineEnd))

/-- Without its blanks a wrapped text is what it was. -/
theorem Wrapped.filter_eq {blank : UInt8 → Bool} {symbols text : Bytes}
    (wrapped : Wrapped blank symbols text) (plain : ∀ b ∈ symbols, blank b = false) :
    text.filter (!blank ·) = symbols := by
  induction wrapped with
  | nil => rfl
  | symbol symbol wrapped ih =>
      obtain ⟨kept, plain⟩ := List.forall_mem_cons.mp plain
      rw [List.filter_cons_of_pos (by rw [kept]; rfl), ih plain]
  | blank isBlank wrapped ih =>
      rw [List.filter_cons_of_neg (by rw [isBlank]; exact Bool.false_ne_true), ih plain]

/-- Every text wraps what is left of it without its blanks. -/
theorem wrapped_filter (blank : UInt8 → Bool) :
    ∀ text : Bytes, Wrapped blank (text.filter (!blank ·)) text
  | [] => .nil
  | b :: text => by
      cases isBlank : blank b with
      | true =>
          rw [List.filter_cons_of_neg (by rw [isBlank]; exact Bool.false_ne_true)]
          exact .blank isBlank (wrapped_filter blank text)
      | false =>
          rw [List.filter_cons_of_pos (by rw [isBlank]; rfl)]
          exact .symbol b (wrapped_filter blank text)

/-- A text of other than four symbols in each quad is not decoded. -/
theorem length_mod_of_decode? : ∀ {symbols bytes : Bytes}, decode? symbols = some bytes →
    symbols.length % 4 = 0
  | [], _, _ => rfl
  | [_, _, _, _], _, _ => Nat.mod_self 4
  | a :: b :: c :: d :: e :: rest, _, decoded => by
      rw [decode?_cons a b c d (List.cons_ne_nil e rest)] at decoded
      obtain ⟨_, -, others⟩ := Option.bind_eq_some_iff.mp decoded
      obtain ⟨_, behind, -⟩ := Option.map_eq_some_iff.mp others
      have shorter := length_mod_of_decode? behind
      simp only [List.length_cons] at shorter ⊢
      omega
  | [_], _, decoded | [_, _], _, decoded | [_, _, _], _, decoded => by cases decoded

end Base64

open Base64

/-- A reader comes to its end where it shows a content. -/
theorem Reader.Shows.exists_readUpTo_iff {σ : Type} {reader : Reader σ} {s : σ}
    {content : Option Bytes} (shown : reader.Shows s content) :
    (∃ bytes, (reader.readUpTo none s).1 = .ok bytes) ↔ content.isSome = true := by
  cases content with
  | none => exact iff_of_false (fun ⟨bytes, read⟩ => shown.not_readUpTo bytes read) nofun
  | some content => exact iff_of_true ⟨content, (shown.readUpTo none).1⟩ rfl

namespace Rule

/-- Dropping line ends leaves what is none. -/
theorem dropLineEnds_eq (lead : Bytes) : dropLineEnds lead = lead.filter (!isLineEnd ·) := by
  refine List.filter_congr fun b _ => ?_
  rw [isLineEnd, Bool.not_or]
  rfl

/-- What is left are the bytes that are no line ends. -/
theorem mem_dropLineEnds {lead : Bytes} {b : UInt8} :
    b ∈ dropLineEnds lead ↔ b ∈ lead ∧ isLineEnd b = false := by
  rw [dropLineEnds_eq, List.mem_filter, Bool.not_eq_true']

/-- **What the rule looks at.** -/
theorem looksBase64_iff (lead : Bytes) :
    looksBase64 lead = true ↔
      (∀ b ∈ dropLineEnds lead, isText b = true) ∧ leastSymbols ≤ (dropLineEnds lead).length ∧
        (lead.length < base64Window → (dropLineEnds lead).length % 4 = 0) ∧
        (decode? ((dropLineEnds lead).take
          ((dropLineEnds lead).length - (dropLineEnds lead).length % 4))).isSome = true := by
  simp only [looksBase64, Bool.and_eq_true, List.all_eq_true, decide_eq_true_eq,
    Bool.not_eq_true', Bool.and_eq_false_iff, decide_eq_false_iff_not, bne_eq_false_iff_eq, isText,
    and_assoc, imp_iff_not_or]

/-- **The beginning of an encoding is accepted** if it is long enough, and whole if the rule
can tell. -/
theorem looksBase64_of_encode {payload lead : Bytes} {k : Nat}
    (written : dropLineEnds lead = (encode payload).take k)
    (enough : leastSymbols ≤ lead.countP isText)
    (whole : lead.length < base64Window → dropLineEnds lead = encode payload) :
    looksBase64 lead = true := by
  rw [looksBase64_iff]
  refine ⟨fun b member => ?_, ?_, fun short => ?_, ?_⟩
  · rw [written] at member
    exact isText_of_mem_encode payload (List.mem_of_mem_take member)
  · rw [dropLineEnds_eq, ← List.countP_eq_length_filter]
    refine Nat.le_trans enough (List.countP_mono_left fun b _ text => ?_)
    rw [not_isLineEnd_of_isText text]
    rfl
  · rw [whole short, length_encode]
    omega
  · rw [written, List.take_take, decode?_take_encode]
    · rfl
    · rw [List.length_take]
      have quads := length_encode payload
      omega

/-- In a text with nothing but line ends put in, these are its blanks. -/
theorem filter_isBlankByte {content : Bytes} (plain : ∀ b ∈ dropLineEnds content, isText b = true) :
    content.filter (!isBlankByte ·) = dropLineEnds content := by
  rw [dropLineEnds_eq]
  refine List.filter_congr fun b member => congrArg (!·) ?_
  cases lineEnd : isLineEnd b with
  | true => exact isBlankByte_of_isLineEnd lineEnd
  | false => exact not_isBlankByte_of_isText (plain b (mem_dropLineEnds.mpr ⟨member, lineEnd⟩))

/-- **A content that is seen whole is accepted where it can be unwrapped:** if there is nothing
in it but symbols, padding and line ends, enough of it is no line end, and the decoder comes to
its end, however the content comes in. -/
theorem accepts_base64_iff {content : Bytes} (short : content.length < base64Window)
    {base : ByteStream} (shown : base.Shows (some content)) :
    Rule.base64.accepts content = true ↔
      (∀ b ∈ content, isText b = true ∨ isLineEnd b = true) ∧
        leastSymbols ≤ content.countP (!isLineEnd ·) ∧
        ∃ bytes, ((base.decoded .base64).readUpTo none).1 = .ok bytes := by
  have view : (base.decoded .base64).Shows (decode? (content.filter (!isBlankByte ·))) :=
    Decoder.base64_computes base content shown
  have ends : (∃ bytes, ((base.decoded .base64).readUpTo none).1 = .ok bytes) ↔ _ :=
    Reader.Shows.exists_readUpTo_iff view
  have allowed : (∀ b ∈ dropLineEnds content, isText b = true) ↔
      ∀ b ∈ content, isText b = true ∨ isLineEnd b = true := by
    refine forall_congr' fun b => ?_
    rw [mem_dropLineEnds, and_imp, or_iff_not_imp_right, Bool.not_eq_true]
  change looksBase64 content = true ↔ _
  rw [ends, looksBase64_iff, ← allowed, List.countP_eq_length_filter, ← dropLineEnds_eq]
  refine and_congr_right fun plain => and_congr_right fun _ => ?_
  rw [filter_isBlankByte plain]
  constructor
  · rintro ⟨whole, decoded⟩
    rwa [whole short, Nat.sub_zero, List.take_length] at decoded
  · intro decoded
    obtain ⟨bytes, decoded⟩ := Option.isSome_iff_exists.mp decoded
    have whole := length_mod_of_decode? decoded
    rw [whole, Nat.sub_zero, List.take_length, decoded]
    exact ⟨fun _ => rfl, rfl⟩

end Rule

/-- `Hello, world!` -/
def Base64.greeting : Bytes :=
  [0x48, 0x65, 0x6C, 0x6C, 0x6F, 0x2C, 0x20, 0x77, 0x6F, 0x72, 0x6C, 0x64, 0x21]

/-- Its encoding in two lines. -/
def Base64.greetingLines : Bytes :=
  [0x53, 0x47, 0x56, 0x73, 0x62, 0x47, 0x38, 0x73, 0x49, 0x48, 0x64, 0x76, 0x0D, 0x0A,
    0x63, 0x6D, 0x78, 0x6B, 0x49, 0x51, 0x3D, 0x3D, 0x0D, 0x0A]

/-- The two lines are accepted, so they can be unwrapped. -/
theorem Rule.accepts_base64_iff_greeting :
    greetingLines.length < base64Window ∧
      (ByteStream.ofBytes greetingLines).Shows (some greetingLines) ∧
      Rule.base64.accepts greetingLines = true ∧
      (∀ b ∈ greetingLines, isText b = true ∨ isLineEnd b = true) ∧
      leastSymbols ≤ greetingLines.countP (!isLineEnd ·) ∧
      ∃ bytes, (((ByteStream.ofBytes greetingLines).decoded .base64).readUpTo none).1 =
        .ok bytes := by
  have short : greetingLines.length < base64Window := by decide
  have shown : (ByteStream.ofBytes greetingLines).Shows (some greetingLines) :=
    Cursor.shows (.start greetingLines)
  have accepted : Rule.base64.accepts greetingLines = true := by decide
  exact ⟨short, shown, accepted, (accepts_base64_iff short shown).mp accepted⟩

namespace Base64

open Rule

/-- **A wrapped text is recognised and unwrapped.**  However the text comes in, the decoder
brings what was encoded.  Where nothing but line ends was put in, the rule for base64 accepts
the text by its first bytes, if there are enough symbols among them. -/
theorem wrapped_recognised {payload text : Bytes}
    (wrapped : Wrapped isBlankByte (encode payload) text) {base : ByteStream}
    (shown : base.Shows (some text)) :
    (base.decoded .base64).Shows (some payload) ∧
      ((base.decoded .base64).readUpTo none).1 = .ok payload ∧
      (Wrapped isLineEnd (encode payload) text →
        leastSymbols ≤ (text.take base64Window).countP isText →
        Rule.base64.holdsFor text = true) := by
  have written : text.filter (!isBlankByte ·) = encode payload :=
    wrapped.filter_eq fun b member => not_isBlankByte_of_mem_encode member
  have view : (base.decoded .base64).Shows (decode? (text.filter (!isBlankByte ·))) :=
    Decoder.base64_computes base text shown
  rw [written, decode?_encode] at view
  refine ⟨view, (Reader.Shows.readUpTo view none).1, fun broken enough => ?_⟩
  have lines : dropLineEnds text = encode payload := by
    rw [dropLineEnds_eq]
    refine broken.filter_eq fun b member => ?_
    exact not_isLineEnd_of_isText (isText_of_mem_encode payload member)
  have beginning : dropLineEnds (text.take base64Window) <+: encode payload := by
    rw [← lines, dropLineEnds_eq, dropLineEnds_eq]
    exact (List.take_prefix _ text).filter _
  change looksBase64 (text.take base64Window) = true
  refine looksBase64_of_encode (List.prefix_iff_eq_take.mp beginning) enough fun short => ?_
  rw [List.length_take] at short
  rw [List.take_of_length_le (by omega), lines]

/-- The greeting is recognised in its two lines. -/
theorem wrapped_recognised_greeting :
    Wrapped isBlankByte (encode greeting) greetingLines ∧
      (ByteStream.ofBytes greetingLines).Shows (some greetingLines) ∧
      Wrapped isLineEnd (encode greeting) greetingLines ∧
      leastSymbols ≤ (greetingLines.take base64Window).countP isText ∧
      (((ByteStream.ofBytes greetingLines).decoded .base64).readUpTo none).1 = .ok greeting ∧
      Rule.base64.holdsFor greetingLines = true := by
  have blanks : encode greeting = greetingLines.filter (!isBlankByte ·) := by decide
  have lineEnds : encode greeting = greetingLines.filter (!isLineEnd ·) := by decide
  have wrapped := wrapped_filter isBlankByte greetingLines
  have broken := wrapped_filter isLineEnd greetingLines
  rw [← blanks] at wrapped
  rw [← lineEnds] at broken
  have shown : (ByteStream.ofBytes greetingLines).Shows (some greetingLines) :=
    Cursor.shows (.start greetingLines)
  have enough : leastSymbols ≤ (greetingLines.take base64Window).countP isText := by decide
  obtain ⟨-, read, recognised⟩ := wrapped_recognised wrapped shown
  exact ⟨wrapped, shown, broken, enough, read, recognised broken enough⟩

end Base64

end Discern
