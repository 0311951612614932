import Discern.Signature.Pattern

/-!
# Reading patterns by positions

`Pattern.read` takes characters off the front of a text.  The same can be done with a cursor, a
position in the bytes of the text that is moved on from byte to byte: `Cursor.read` compares bytes
with those of ASCII characters, and takes what stands in braces and between quotes as slices of the
text, by their positions.  It notes every slice that it takes.

A slice of characters that begins or ends inside of a character cannot be taken, and no slice can
that ends before it begins or behind the text.  Reading is then broken off without an answer.
-/

namespace Discern

namespace Utf8

/-- Two positions in the bytes of a text. -/
structure Span where
  start : Nat
  stop : Nat
deriving DecidableEq

/-- A text without its first `n` bytes, if these are whole characters. -/
def drop? : (n : Nat) → List Char → Option (List Char)
  | 0, cs => some cs
  | _ + 1, [] => none
  | n + 1, c :: cs => if c.utf8Size ≤ n + 1 then drop? (n + 1 - c.utf8Size) cs else none

/-- The first `n` bytes of a text, if these are whole characters. -/
def take? : (n : Nat) → List Char → Option (List Char)
  | 0, _ => some []
  | _ + 1, [] => none
  | n + 1, c :: cs =>
    if c.utf8Size ≤ n + 1 then (take? (n + 1 - c.utf8Size) cs).map (c :: ·) else none

/-- **A slice of a text,** if it begins and ends between two characters. -/
def slice? (text : List Char) (span : Span) : Option (List Char) :=
  if span.start ≤ span.stop then
    (drop? span.start text).bind (take? (span.stop - span.start))
  else none

/-- A slice of bytes. -/
def byteSlice? (bytes : Bytes) (span : Span) : Option Bytes :=
  if span.start ≤ span.stop ∧ span.stop ≤ bytes.length then
    some ((bytes.drop span.start).take (span.stop - span.start))
  else none

end Utf8

namespace Pattern

open Text

/-- **Why reading ends early.** -/
inductive Halt where
  /-- A slice cannot be taken, or what the reader relies on does not hold. -/
  | broken
  | flawed (error : PatternError)
deriving DecidableEq

/-- **What reading comes to,** and the slices that were taken. -/
structure Traced (α : Type) where
  slices : List Utf8.Span
  outcome : Except Halt α

instance : Monad Traced where
  pure a := ⟨[], .ok a⟩
  bind first next :=
    match first.outcome with
    | .ok a => ⟨first.slices ++ (next a).slices, (next a).outcome⟩
    | .error reason => ⟨first.slices, .error reason⟩

section

variable {α β : Type} {first : Traced α} {next : α → Traced β} {a : α} {b : β} {reason : Halt}

theorem Traced.bind_of_ok (goesOn : first.outcome = .ok a) :
    first >>= next = ⟨first.slices ++ (next a).slices, (next a).outcome⟩ := by
  simp only [bind, goesOn]

theorem Traced.bind_of_error (stops : first.outcome = .error reason) :
    first >>= next = ⟨first.slices, .error reason⟩ := by
  simp only [bind, stops]

theorem Traced.outcome_bind_eq_ok_iff :
    (first >>= next).outcome = .ok b ↔
      ∃ a, first.outcome = .ok a ∧ (next a).outcome = .ok b := by
  cases taken : first.outcome with
  | ok a => simp [bind_of_ok taken]
  | error reason => simp [bind_of_error taken]

end

namespace Cursor

/-- The blanks between tokens. -/
def isBlankByte (b : UInt8) : Bool :=
  b == ' '.toUInt8 || b == '\t'.toUInt8 || b == '\n'.toUInt8 || b == '\x0c'.toUInt8 ||
    b == '\r'.toUInt8

/-- What a hexadecimal digit stands for. -/
def digit? (b : UInt8) : Option UInt8 := Hex.value? (Char.ofNat b.toNat)

section

variable (text : List Char)

/-- The byte at a position. -/
def peek (position : Nat) : Option UInt8 := (Utf8.encode text)[position]?

/-- The position to which bytes of a kind reach from another one. -/
def skip (kind : UInt8 → Bool) (position : Nat) : Nat :=
  position + (((Utf8.encode text).drop position).takeWhile kind).length

def halt {α : Type} (reason : Halt) : Traced α := ⟨[], .error reason⟩

/-- Report a flaw at a position. -/
def report {α : Type} (position : Nat) (flaw : PatternFlaw) : Traced α :=
  halt (.flawed ⟨String.ofList text, position, flaw⟩)

/-- Take a slice of the text. -/
def slice (span : Utf8.Span) : Traced (List Char) :=
  ⟨[span], (Utf8.slice? text span).elim (.error .broken) .ok⟩

/-- Take a slice of the bytes of the text. -/
def byteSlice (span : Utf8.Span) : Traced Bytes :=
  ⟨[span], (Utf8.byteSlice? (Utf8.encode text) span).elim (.error .broken) .ok⟩

/-- The gap whose opening brace stands at a position, and the position behind it. -/
def braced (start : Nat) : Traced (Gap × Nat) :=
  if peek text start = some '\x7b'.toUInt8 then do
    let behind ← slice text ⟨start, Utf8.size text⟩
    match behind.dropWhile (· != '\x7d') with
    | [] => report text start .unterminatedGap
    | _ :: _ => do
      let close := start + Utf8.size (behind.takeWhile (· != '\x7d'))
      let body ← slice text ⟨start + 1, close⟩
      match gapBody body with
      | .ok gap => return (gap, close + 1)
      | .error flaw => report text start flaw
  else halt .broken

/-- The cells of the quoted run whose opening quote stands at a position, and the position behind
it. -/
def quoted (start : Nat) : Traced (List (Option UInt8) × Nat) :=
  let close := skip text (· != '\''.toUInt8) (start + 1)
  if peek text close = none then report text start .unterminatedQuote
  else if close = start + 1 then report text start .emptyQuote
  else do
    let run ← byteSlice text ⟨start + 1, close⟩
    return (run.map some, close + 1)

/-- **The token that begins at a position** with the byte `b`, and the position behind it. -/
def token (start : Nat) (b : UInt8) : Traced (Token × Nat) :=
  if b = '*'.toUInt8 then return (.gap (.atLeast 0), start + 1)
  else if b = '\x7b'.toUInt8 then do
    let (gap, next) ← braced text start
    return (.gap gap, next)
  else if b = '?'.toUInt8 then
    if peek text (start + 1) = some '?'.toUInt8 then return (.cells [none], start + 2)
    else report text start .loneWildcard
  else if b = '\''.toUInt8 then do
    let (cells, next) ← quoted text start
    return (.cells cells, next)
  else
    match digit? b with
    | none => report text start .unexpectedCharacter
    | some high =>
      match (peek text (start + 1)).bind digit? with
      | none => report text start .loneDigit
      | some low => return (.cells [some (16 * high + low)], start + 2)

end

/-- **What has been read of a pattern,** with the position of the last gap. -/
structure Draft where
  closed : List (Fragment × Gap) := []
  cells : List (Option UInt8) := []
  lastGap : Option Nat := none

namespace Draft

/-- The flaw of a gap that follows no cell. -/
def gapFlaw (draft : Draft) : PatternFlaw :=
  if draft.closed.isEmpty then .startsWithGap else .adjacentGaps

/-- Take a token that begins at a position. -/
def push (draft : Draft) (start : Nat) : Token → Draft
  | .cells cells => { draft with cells := draft.cells ++ cells }
  | .gap gap =>
    { closed := (⟨draft.cells⟩, gap) :: draft.closed, cells := [], lastGap := some start }

/-- The sub-sequence of a pattern that has been read to its end. -/
def finish (text : List Char) (draft : Draft) : Traced SubSequence :=
  if draft.cells.isEmpty then
    match draft.lastGap with
    | some position => report text position .endsWithGap
    | none => report text 0 .noFragment
  else
    return {
      fragments := (draft.closed.map Prod.fst).reverse ++ [⟨draft.cells⟩]
      gaps := (draft.closed.map Prod.snd).reverse }

end Draft

/-! ## Advancing -/

theorem lt_of_braced {text : List Char} {start next : Nat} {gap : Gap}
    (read : (braced text start).outcome = .ok (gap, next)) : start < next := by
  unfold braced at read
  split at read
  · obtain ⟨behind, -, read⟩ := Traced.outcome_bind_eq_ok_iff.1 read
    split at read
    · cases read
    · obtain ⟨body, -, read⟩ := Traced.outcome_bind_eq_ok_iff.1 read
      split at read
      · cases read
        omega
      · cases read
  · cases read

theorem lt_of_quoted {text : List Char} {start next : Nat} {cells : List (Option UInt8)}
    (read : (quoted text start).outcome = .ok (cells, next)) : start < next := by
  unfold quoted at read
  dsimp only at read
  split at read
  · cases read
  split at read
  · cases read
  · obtain ⟨run, -, read⟩ := Traced.outcome_bind_eq_ok_iff.1 read
    cases read
    unfold skip
    omega

/-- A token ends behind the position where it begins. -/
theorem lt_of_token {text : List Char} {start next : Nat} {b : UInt8} {t : Token}
    (read : (token text start b).outcome = .ok (t, next)) : start < next := by
  unfold token at read
  split at read
  · cases read
    exact Nat.lt_succ_self _
  split at read
  · obtain ⟨taken, readGap, same⟩ := Traced.outcome_bind_eq_ok_iff.1 read
    cases same
    exact lt_of_braced readGap
  split at read
  · split at read
    · cases read
      omega
    · cases read
  split at read
  · obtain ⟨taken, readRun, same⟩ := Traced.outcome_bind_eq_ok_iff.1 read
    cases same
    exact lt_of_quoted readRun
  split at read
  · cases read
  · split at read
    · cases read
    · cases read
      omega

/-- Read the rest of a pattern from a position on. -/
def readFrom (text : List Char) (draft : Draft) (position : Nat) : Traced SubSequence :=
  let start := skip text isBlankByte position
  match _h : peek text start with
  | none => draft.finish text
  | some b =>
    if (b == '\x7b'.toUInt8 || b == '*'.toUInt8) && draft.cells.isEmpty then
      report text start draft.gapFlaw
    else
      let first := token text start b
      match _h' : first.outcome with
      | .error reason => ⟨first.slices, .error reason⟩
      | .ok (t, next) =>
        let later := readFrom text (draft.push start t) next
        ⟨first.slices ++ later.slices, later.outcome⟩
termination_by (Utf8.encode text).length - position
decreasing_by
  have inside : start < (Utf8.encode text).length := (List.getElem?_eq_some_iff.1 _h).1
  have reached : position ≤ start := Nat.le_add_right _ _
  have ahead := lt_of_token _h'
  omega

/-- **Read a pattern** with a cursor. -/
def read (text : String) : Traced SubSequence := readFrom text.toList {} 0

end Cursor

end Pattern

end Discern
