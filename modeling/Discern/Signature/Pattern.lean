import Discern.Signature.Sequence
import Discern.Text.Blank

/-!
# Reading byte patterns

The text of a pattern is a row of tokens with optional ASCII blanks between them:

* two hexadecimal digits ask for one byte;
* `??` takes any byte;
* a quoted run such as `'PK'` asks for the bytes of its characters;
* `*`, `{n}`, `{n-m}` and `{n-*}` are gaps.

A gap closes the fragment before it, so a pattern neither begins nor ends with a
gap and has no two gaps in a row.  `Pattern.read` gives the sub-sequence that a
pattern describes, and `Pattern.readGap` reads a gap that stands alone.

Reading walks over the characters of the text.  An error remembers what was left
of the text where the faulty token begins, and only the report turns that into a
byte position, so positions always lie between two characters.
-/

namespace Discern

/-- **What can be wrong with the text of a pattern or of a gap.** -/
inductive PatternFlaw where
  | startsWithGap
  | adjacentGaps
  | endsWithGap
  | noFragment
  | loneWildcard
  | unterminatedQuote
  | emptyQuote
  | unexpectedCharacter
  | loneDigit
  | unterminatedGap
  | boundNotNumber
  | invertedBounds
  | notGap
  | textAfterGap
deriving DecidableEq, Inhabited

def PatternFlaw.message : PatternFlaw → String
  | startsWithGap => "pattern cannot start with a gap"
  | adjacentGaps => "adjacent gaps are not allowed"
  | endsWithGap => "pattern cannot end with a gap"
  | noFragment => "pattern has no fragments"
  | loneWildcard => "wildcard must be written as ??"
  | unterminatedQuote => "unterminated quoted literal"
  | emptyQuote => "empty quoted literal"
  | unexpectedCharacter => "unexpected character"
  | loneDigit => "hex bytes need two digits"
  | unterminatedGap => "unterminated gap"
  | boundNotNumber => "gap bounds must be non-negative integers"
  | invertedBounds => "gap maximum is below its minimum"
  | notGap => "expected a gap like \x7bn\x7d, \x7bn-m\x7d, \x7bn-*\x7d or *"
  | textAfterGap => "unexpected text after gap"

/-- **A flaw in a text,** with the byte position where it shows. -/
structure PatternError where
  text : String
  position : Nat
  flaw : PatternFlaw
deriving DecidableEq, Inhabited

def PatternError.message (error : PatternError) : String :=
  s!"Invalid pattern '{error.text}' at byte {error.position}: {error.flaw.message}"

namespace Pattern

open Text

/-- A flaw, and what was left of the text where the faulty token begins. -/
structure Fault where
  rest : List Char
  flaw : PatternFlaw

/-- The report of a fault in a text. -/
def Fault.report (text : List Char) (fault : Fault) : PatternError :=
  ⟨String.ofList text, Utf8.size text - Utf8.size fault.rest, fault.flaw⟩

/-- A bound of a gap, with blanks around it. -/
def bound (cs : List Char) : Except PatternFlaw UInt64 :=
  match Word.read64? (trim cs) with
  | some n => .ok n
  | none => .error .boundNotNumber

/-- **What stands between the braces of a gap:** a number, two numbers with a dash
between them, or a number, a dash and directly after it a star. -/
def gapBody (cs : List Char) : Except PatternFlaw Gap :=
  let body := trim cs
  match body.dropWhile (· != '-') with
  | [] => do return .exactly (← bound body)
  | ['-', '*'] => do return .atLeast (← bound (body.takeWhile (· != '-')))
  | _ :: upper => do
    let min ← bound (body.takeWhile (· != '-'))
    let max ← bound upper
    if max < min then throw .invertedBounds else return .between min max

/-- The gap whose opening brace has been read, and the text after it. -/
def bracedGap (cs : List Char) : Except PatternFlaw (Gap × List Char) :=
  match cs.dropWhile (· != '\x7d') with
  | [] => .error .unterminatedGap
  | _ :: rest => (gapBody (cs.takeWhile (· != '\x7d'))).map (·, rest)

/-- The cells of a quoted run whose opening quote has been read, and the text
after it. -/
def quoted (cs : List Char) : Except PatternFlaw (List (Option UInt8) × List Char) :=
  match cs.dropWhile (· != '\'') with
  | [] => .error .unterminatedQuote
  | _ :: rest =>
    match cs.takeWhile (· != '\'') with
    | [] => .error .emptyQuote
    | run => .ok ((Utf8.encode run).map some, rest)

/-- A token of a pattern. -/
inductive Token where
  | cells (cells : List (Option UInt8))
  | gap (gap : Gap)

/-- Whether a token that begins with this character is a gap. -/
def opensGap (c : Char) : Bool := c == '\x7b' || c == '*'

/-- **The token that begins with `c`,** and the text after it. -/
def token (c : Char) (cs : List Char) : Except PatternFlaw (Token × List Char) :=
  if c = '*' then .ok (.gap (.atLeast 0), cs)
  else if c = '\x7b' then (bracedGap cs).map fun (gap, rest) => (.gap gap, rest)
  else if c = '?' then
    match cs with
    | '?' :: rest => .ok (.cells [none], rest)
    | _ => .error .loneWildcard
  else if c = '\'' then (quoted cs).map fun (cells, rest) => (.cells cells, rest)
  else
    match Hex.value? c with
    | none => .error .unexpectedCharacter
    | some _ =>
      match cs with
      | low :: rest =>
        match Hex.pair? c low with
        | some byte => .ok (.cells [some byte], rest)
        | none => .error .loneDigit
      | [] => .error .loneDigit

private theorem length_dropWhile_le {p : Char → Bool} (cs : List Char) :
    (cs.dropWhile p).length ≤ cs.length := by
  have := congrArg List.length (List.takeWhile_append_dropWhile (p := p) (l := cs))
  rw [List.length_append] at this
  omega

private theorem bracedGap_length {cs rest : List Char} {gap : Gap}
    (h : bracedGap cs = .ok (gap, rest)) : rest.length ≤ cs.length := by
  unfold bracedGap at h
  split at h
  · cases h
  · rename_i d tail hdrop
    have shorter := length_dropWhile_le (p := (· != '\x7d')) cs
    rw [hdrop, List.length_cons] at shorter
    cases hb : gapBody (cs.takeWhile (· != '\x7d')) with
    | error e => rw [hb] at h; cases h
    | ok b =>
      rw [hb] at h
      cases h
      omega

private theorem quoted_length {cs rest : List Char} {cells : List (Option UInt8)}
    (h : quoted cs = .ok (cells, rest)) : rest.length ≤ cs.length := by
  unfold quoted at h
  split at h
  · cases h
  · rename_i d tail hdrop
    have shorter := length_dropWhile_le (p := (· != '\'')) cs
    rw [hdrop, List.length_cons] at shorter
    split at h
    · cases h
    · cases h
      omega

/-- A token leaves no more text than there was after its first character. -/
theorem token_length {c : Char} {cs rest : List Char} {t : Token}
    (h : token c cs = .ok (t, rest)) : rest.length ≤ cs.length := by
  unfold token at h
  split at h
  · cases h
    exact Nat.le_refl _
  split at h
  · cases hg : bracedGap cs with
    | error e => rw [hg] at h; cases h
    | ok g => rw [hg] at h; cases h; exact bracedGap_length hg
  split at h
  · split at h
    · cases h
      exact Nat.le_succ _
    · cases h
  split at h
  · cases hq : quoted cs with
    | error e => rw [hq] at h; cases h
    | ok q => rw [hq] at h; cases h; exact quoted_length hq
  split at h
  · cases h
  · split at h
    · split at h
      · cases h
        exact Nat.le_succ _
      · cases h
    · cases h

/-- **What has been read of a pattern:** the closed fragments with the gap after
each, last first, the cells of the open fragment, and the text from the last gap
on. -/
structure Draft where
  closed : List (Fragment × Gap) := []
  cells : List (Option UInt8) := []
  lastGap : Option (List Char) := none

namespace Draft

/-- The flaw of a gap that follows no cell. -/
def gapFlaw (draft : Draft) : PatternFlaw :=
  if draft.closed.isEmpty then .startsWithGap else .adjacentGaps

/-- Take a token that begins at `here`. -/
def push (draft : Draft) (here : List Char) : Token → Draft
  | .cells cells => { draft with cells := draft.cells ++ cells }
  | .gap gap =>
    { closed := (⟨draft.cells⟩, gap) :: draft.closed, cells := [], lastGap := some here }

/-- The sub-sequence of a pattern that has been read to its end. -/
def finish (draft : Draft) (text : List Char) : Except Fault SubSequence :=
  if draft.cells.isEmpty then
    match draft.lastGap with
    | some gap => .error ⟨gap, .endsWithGap⟩
    | none => .error ⟨text, .noFragment⟩
  else
    .ok {
      fragments := (draft.closed.map Prod.fst).reverse ++ [⟨draft.cells⟩]
      gaps := (draft.closed.map Prod.snd).reverse }

end Draft

/-- Read the rest of a pattern. -/
def scan (text : List Char) (draft : Draft) : List Char → Except Fault SubSequence
  | [] => draft.finish text
  | c :: cs =>
    if isAsciiBlank c then scan text draft cs
    else if opensGap c && draft.cells.isEmpty then .error ⟨c :: cs, draft.gapFlaw⟩
    else
      match _h : token c cs with
      | .error flaw => .error ⟨c :: cs, flaw⟩
      | .ok (t, rest) => scan text (draft.push (c :: cs) t) rest
termination_by cs => cs.length
decreasing_by
  · simp
  · exact Nat.lt_succ_of_le (token_length (by assumption))

/-- **Read a pattern** into a sub-sequence that lies directly at its anchor. -/
def read (text : String) : Except PatternError SubSequence :=
  (scan text.toList {} text.toList).mapError (Fault.report text.toList)

/-- **Read a gap that stands alone,** with blanks around it.  What is wrong inside
its braces is reported for the text without those blanks. -/
def readGap (text : String) : Except PatternError Gap :=
  let trimmed := trim text.toList
  let ending := trimEnd text.toList
  let after (gap : Gap) (rest : List Char) : Except PatternError Gap :=
    if rest.isEmpty then .ok gap
    else
      .error ⟨text, Utf8.size ending - Utf8.size rest, .textAfterGap⟩
  match trimmed with
  | '*' :: rest => after (.atLeast 0) rest
  | '\x7b' :: cs =>
    match bracedGap cs with
    | .ok (gap, rest) => after gap rest
    | .error flaw => .error (Fault.report trimmed ⟨trimmed, flaw⟩)
  | _ => .error ⟨text, Utf8.size text.toList - Utf8.size (trimStart text.toList), .notGap⟩

end Pattern

end Discern
