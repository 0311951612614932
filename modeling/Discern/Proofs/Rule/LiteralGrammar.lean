import Discern.Proofs.Pattern.Token
import Discern.Proofs.Text.Utf8
import Discern.Rule.Literal

/-!
# The grammar of literals

A literal is a row of items: a character that stands for its own bytes, or an escape that stands
for one byte.  The documented items are those of `Literal.Item`.  The reader takes one more, a
`\x` whose first digit is a `+`; with it the grammar is exact (`Literal.read_eq_ok_iff_row`).

The reader works on bytes, so an escape is found by its bytes first.  These are all ASCII, and an
ASCII byte in a text is a character.
-/

namespace Discern

open Text

namespace Literal

/-- **An item of a literal,** with the bytes that it stands for: a character other than the
backslash, or an escape. -/
inductive Item : List Char → Bytes → Prop
  | character {c} : c ≠ '\\' → Item [c] (Utf8.encode [c])
  | lineFeed : Item ['\\', 'n'] [10]
  | carriageReturn : Item ['\\', 'r'] [13]
  | tab : Item ['\\', 't'] [9]
  | backslash : Item ['\\', '\\'] [92]
  | byte {high low h l} : Hex.Digit high h → Hex.Digit low l →
      Item ['\\', 'x', high, low] [16 * h + l]

/-- **What the reader takes for an item:** also a byte of which the first digit is a sign. -/
inductive Taken : List Char → Bytes → Prop
  | item {spelled value} : Item spelled value → Taken spelled value
  | signed {low l} : Hex.Digit low l → Taken ['\\', 'x', '+', low] [l]

/-- **A row of items,** one directly after the other. -/
inductive Row (item : List Char → Bytes → Prop) : List Char → Bytes → Prop
  | done : Row item [] []
  | next {spelled value text bytes} : item spelled value → Row item text bytes →
      Row item (spelled ++ text) (value ++ bytes)

variable {text spelled : List Char} {bytes rest escape result value : Bytes} {byte : UInt8}
  {c : Char}

/-! ## Digits -/

/-- Two digits are read as a byte. -/
theorem digits?_of_digit {high low : Char} {h l : UInt8} (isHigh : Hex.Digit high h)
    (isLow : Hex.Digit low l) :
    digits? (UInt8.ofNat high.toNat) (UInt8.ofNat low.toNat) = some (16 * h + l) := by
  have aboveHigh := isHigh.toNat
  have aboveLow := isLow.toNat
  have highByte := Utf8.toNat_ofNat_of_ascii aboveHigh.2
  have lowByte := Utf8.toNat_ofNat_of_ascii aboveLow.2
  have noSign : UInt8.ofNat high.toNat ≠ 43 := by
    intro sign
    rw [sign] at highByte
    have plus : (43 : UInt8).toNat = 43 := rfl
    omega
  rw [digits?, if_neg noSign, highByte, lowByte, Char.ofNat_toNat, Char.ofNat_toNat]
  exact Hex.pair?_eq_some_iff.2 ⟨h, l, isHigh, isLow, rfl⟩

/-- A digit behind a sign is read as its value. -/
theorem digits?_of_sign {low : Char} {l : UInt8} (isLow : Hex.Digit low l) :
    digits? 43 (UInt8.ofNat low.toNat) = some l := by
  rw [digits?, if_pos rfl, Utf8.ofNat_toNat_of_ascii isLow.toNat.2]
  exact Hex.value?_eq_some_iff.2 isLow

/-- The digits of a byte as the reader takes them: two digits, or a sign and one digit. -/
theorem exists_of_digits? {high low value : UInt8} (read : digits? high low = some value) :
    high.toNat < 128 ∧ low.toNat < 128 ∧
      Taken ['\\', 'x', Char.ofNat high.toNat, Char.ofNat low.toNat] [value] := by
  have narrow {b d : UInt8} (digit : Hex.Digit (Char.ofNat b.toNat) d) : b.toNat < 128 := by
    rw [← Utf8.toNat_ofNat_toNat b]
    exact digit.toNat.2
  unfold digits? at read
  split at read
  · rename_i sign
    subst sign
    have isLow := Hex.value?_eq_some_iff.1 read
    exact ⟨by decide, narrow isLow, .signed isLow⟩
  · obtain ⟨h, l, isHigh, isLow, rfl⟩ := Hex.pair?_eq_some_iff.1 read
    exact ⟨narrow isHigh, narrow isLow, .item (.byte isHigh isLow)⟩

/-! ## Escapes as bytes -/

/-- **The bytes of an escape** behind its backslash, and the byte that it stands for. -/
inductive Escape : Bytes → UInt8 → Prop
  | lineFeed : Escape [110] 10
  | carriageReturn : Escape [114] 13
  | tab : Escape [116] 9
  | backslash : Escape [92] 92
  | byte {high low value} : digits? high low = some value → Escape [120, high, low] value

/-- An escape is scanned as the byte that it stands for. -/
theorem scan_of_escape (marks : Escape escape byte) (done rest : Bytes) :
    scan done (92 :: (escape ++ rest)) = scan (byte :: done) rest := by
  cases marks with
  | lineFeed => rfl
  | carriageReturn => rfl
  | tab => rfl
  | backslash => rfl
  | byte read => simp only [List.cons_append, List.nil_append, scan, read]

/-- Behind a backslash the reader goes on if an escape stands there. -/
theorem exists_escape_of_scan {done : Bytes} (read : scan done (92 :: bytes) = .ok result) :
    ∃ escape byte rest, bytes = escape ++ rest ∧ Escape escape byte := by
  unfold scan at read
  split at read
  · cases ‹92 :: bytes = []›
  · cases ‹92 :: bytes = _›
    exact ⟨_, _, _, rfl, .lineFeed⟩
  · cases ‹92 :: bytes = _›
    exact ⟨_, _, _, rfl, .carriageReturn⟩
  · cases ‹92 :: bytes = _›
    exact ⟨_, _, _, rfl, .tab⟩
  · cases ‹92 :: bytes = _›
    exact ⟨_, _, _, rfl, .backslash⟩
  · cases ‹92 :: bytes = _›
    split at read
    · exact ⟨[_, _, _], _, _, rfl, .byte ‹_›⟩
    · cases read
  · cases read
  · cases read
  · cases read
  · cases ‹92 :: bytes = _›
    rename_i unknown dangling
    cases bytes with
    | nil => exact (dangling rfl rfl).elim
    | cons other rest => exact (unknown other rest rfl rfl).elim

/-- The characters of an escape. -/
theorem taken_of_escape (marks : Escape escape byte) :
    (∀ b ∈ escape, b.toNat < 128) ∧
      Taken ('\\' :: escape.map fun b => Char.ofNat b.toNat) [byte] := by
  cases marks with
  | lineFeed => exact ⟨List.forall_mem_singleton.2 (by decide), .item .lineFeed⟩
  | carriageReturn => exact ⟨List.forall_mem_singleton.2 (by decide), .item .carriageReturn⟩
  | tab => exact ⟨List.forall_mem_singleton.2 (by decide), .item .tab⟩
  | backslash => exact ⟨List.forall_mem_singleton.2 (by decide), .item .backslash⟩
  | byte read =>
      obtain ⟨high, low, taken⟩ := exists_of_digits? read
      exact ⟨by simp [high, low], taken⟩

/-! ## Reading item by item -/

/-- Any other byte than a backslash is scanned as itself. -/
theorem scan_cons_of_ne (other : byte ≠ 92) (done rest : Bytes) :
    scan done (byte :: rest) = scan (byte :: done) rest := by
  rw [scan]
  all_goals
    intros
    exact other ‹_›

/-- Bytes without a backslash among them stand for themselves. -/
theorem scan_append (plain : 92 ∉ bytes) (done rest : Bytes) :
    scan done (bytes ++ rest) = scan (bytes.reverse ++ done) rest := by
  induction bytes generalizing done with
  | nil => rfl
  | cons byte bytes ih =>
      obtain ⟨other, later⟩ := List.ne_and_not_mem_of_not_mem_cons plain
      rw [List.cons_append, scan_cons_of_ne other.symm, ih later, List.reverse_cons,
        List.append_assoc]
      rfl

/-- No other character has the byte of a backslash. -/
theorem not_mem_encode (other : c ≠ '\\') : 92 ∉ Utf8.encode [c] := by
  by_cases narrow : c.toNat < 128
  · rw [Utf8.encode_cons_of_ascii narrow]
    intro member
    have same : 92 = UInt8.ofNat c.toNat := List.mem_singleton.1 member
    have number := Utf8.ofNat_toNat_of_ascii narrow
    rw [← same] at number
    exact other number.symm
  · intro member
    rw [Utf8.encode, List.flatMap_singleton] at member
    exact Nat.not_lt_of_le (Utf8.le_toNat_of_wide narrow 92 member) (by decide)

/-- What is taken for an item is scanned as its bytes. -/
theorem scan_of_taken (taken : Taken spelled value) (done : Bytes) (text : List Char) :
    scan done (Utf8.encode (spelled ++ text)) =
      scan (value.reverse ++ done) (Utf8.encode text) := by
  rw [Utf8.encode_append]
  cases taken with
  | item item =>
      cases item with
      | character other => exact scan_append (not_mem_encode other) done _
      | lineFeed => exact scan_of_escape .lineFeed done _
      | carriageReturn => exact scan_of_escape .carriageReturn done _
      | tab => exact scan_of_escape .tab done _
      | backslash => exact scan_of_escape .backslash done _
      | @byte high low _ _ isHigh isLow =>
          have bytes : Utf8.encode ['\\', 'x', high, low] =
              92 :: [120, UInt8.ofNat high.toNat, UInt8.ofNat low.toNat] := by
            rw [Utf8.encode_cons_of_ascii (by decide), Utf8.encode_cons_of_ascii (by decide),
              Utf8.encode_cons_of_ascii isHigh.toNat.2,
              Utf8.encode_cons_of_ascii isLow.toNat.2]
            rfl
          rw [bytes]
          exact scan_of_escape (.byte (digits?_of_digit isHigh isLow)) done _
  | @signed low _ isLow =>
      have bytes : Utf8.encode ['\\', 'x', '+', low] =
          92 :: [120, 43, UInt8.ofNat low.toNat] := by
        rw [Utf8.encode_cons_of_ascii (by decide), Utf8.encode_cons_of_ascii (by decide),
          Utf8.encode_cons_of_ascii (by decide),
          Utf8.encode_cons_of_ascii isLow.toNat.2]
        rfl
      rw [bytes]
      exact scan_of_escape (.byte (digits?_of_sign isLow)) done _

/-- A text that is read begins with an item. -/
theorem exists_taken_of_scan {done : Bytes} {cs : List Char}
    (read : scan done (Utf8.encode (c :: cs)) = .ok result) :
    ∃ spelled value rest, c :: cs = spelled ++ rest ∧ spelled ≠ [] ∧ Taken spelled value := by
  by_cases mark : c = '\\'
  · subst mark
    rw [Utf8.encode_cons_of_ascii (by decide)] at read
    obtain ⟨escape, byte, back, split, marks⟩ := exists_escape_of_scan read
    obtain ⟨ascii, taken⟩ := taken_of_escape marks
    obtain ⟨rest, rfl, -⟩ := Utf8.exists_of_encode_append ascii split
    exact ⟨_, _, rest, rfl, List.cons_ne_nil _ _, taken⟩
  · exact ⟨[c], _, cs, rfl, List.cons_ne_nil _ _, .item (.character mark)⟩

/-- A row of items is scanned as their bytes. -/
theorem scan_of_row (row : Row Taken text bytes) (done : Bytes) :
    scan done (Utf8.encode text) = .ok (done.reverse ++ bytes) := by
  induction row generalizing done with
  | done => rw [List.append_nil]; rfl
  | next taken _ ih =>
      rw [scan_of_taken taken, ih, List.reverse_append, List.reverse_reverse, List.append_assoc]

/-- What can be scanned is a row of items. -/
theorem exists_row_of_scan {done : Bytes} (read : scan done (Utf8.encode text) = .ok result) :
    ∃ bytes, Row Taken text bytes := by
  -- The induction is on the length, since an item takes more than one character.
  generalize size : text.length = n
  induction n using Nat.strong_induction_on generalizing text done with
  | _ n ih =>
      cases text with
      | nil => exact ⟨[], .done⟩
      | cons c cs =>
          obtain ⟨spelled, value, rest, split, filled, taken⟩ := exists_taken_of_scan read
          rw [split] at read size ⊢
          rw [scan_of_taken taken] at read
          have shorter : rest.length < n := by
            rw [← size, List.length_append]
            exact Nat.lt_add_of_pos_left (List.length_pos_of_ne_nil filled)
          obtain ⟨bytes, row⟩ := ih _ shorter read rfl
          exact ⟨value ++ bytes, .next taken row⟩

/-- Exactly the rows of items can be scanned, and come to their bytes. -/
theorem scan_eq_ok_iff {done : Bytes} :
    scan done (Utf8.encode text) = .ok result ↔
      ∃ bytes, Row Taken text bytes ∧ done.reverse ++ bytes = result := by
  constructor
  · intro read
    obtain ⟨bytes, row⟩ := exists_row_of_scan read
    rw [scan_of_row row] at read
    exact ⟨bytes, row, Except.ok.inj read⟩
  · rintro ⟨bytes, row, rfl⟩
    exact scan_of_row row done

theorem Taken.ne_nil (taken : Taken spelled value) : spelled ≠ [] ∧ value ≠ [] := by
  cases taken with
  | item item =>
      cases item with
      | @character c _ =>
          refine ⟨List.cons_ne_nil _ _, fun none => ?_⟩
          have size := congrArg List.length none
          rw [Utf8.length_encode] at size
          exact absurd size (Nat.ne_of_gt c.utf8Size_pos)
      | _ => exact ⟨List.cons_ne_nil _ _, List.cons_ne_nil _ _⟩
  | signed => exact ⟨List.cons_ne_nil _ _, List.cons_ne_nil _ _⟩

/-- Only the empty text is a row of no items. -/
theorem Row.eq_nil_iff (row : Row Taken text bytes) : bytes = [] ↔ text = [] := by
  cases row with
  | done => exact iff_of_true rfl rfl
  | next taken _ =>
      obtain ⟨spelled, value⟩ := taken.ne_nil
      exact iff_of_false (List.append_ne_nil_of_left_ne_nil value _)
        (List.append_ne_nil_of_left_ne_nil spelled _)

/-- **The grammar of literals.**  A text is read if and only if it is a row of items, at least one,
where the reader takes a `\x` with a sign and one digit for an item too; and it is read as the bytes
of its items one after the other. -/
theorem read_eq_ok_iff_row (text : String) (bytes : Bytes) :
    read text = .ok bytes ↔ text ≠ "" ∧ Row Taken text.toList bytes := by
  have encoded : Utf8.ofString text = Utf8.encode text.toList := by
    rw [← Utf8.ofString_ofList, String.ofList_toList]
  have opened : read text = (scan [] (Utf8.encode text.toList)).bind fun bytes =>
      if bytes.isEmpty then .error .empty else .ok bytes := by
    rw [← encoded]
    rfl
  rw [opened, bind_eq_ok_iff]
  simp only [scan_eq_ok_iff, List.reverse_nil, List.nil_append, exists_eq_right]
  constructor
  · rintro ⟨found, row, filled⟩
    split at filled
    · cases filled
    · rename_i some
      cases filled
      refine ⟨?_, row⟩
      rintro rfl
      exact some (List.isEmpty_iff.2 (row.eq_nil_iff.2 rfl))
  · rintro ⟨filled, row⟩
    refine ⟨bytes, row, if_neg fun none => filled ?_⟩
    rw [← String.toList_eq_nil_iff]
    exact row.eq_nil_iff.1 (List.isEmpty_iff.1 none)

/-- A sign is no digit, but the reader takes it for one. -/
theorem sign_read_as_digit :
    read "\\x+5" = .ok [5] ∧ ¬ ∃ bytes, Row Item "\\x+5".toList bytes := by
  refine ⟨by decide, ?_⟩
  rintro ⟨bytes, row⟩
  generalize whole : "\\x+5".toList = text at row
  cases row with
  | done => cases whole
  | next item _ =>
      cases item with
      | character other =>
          cases whole
          exact other rfl
      | byte isHigh _ =>
          cases whole
          exact isHigh.ne (by decide) rfl
      | _ => cases whole

end Literal

end Discern
