import Discern.Document.Datum
import Discern.Text.Hex

/-!
# YAML

`Yaml.parse?` reads one document of block and flow collections with plain, quoted and
block scalars and comments, with a version directive before it or none.  Anchors, tags
and keys that are collections are refused.  Plain scalars stay `plain`, since only their
reader knows what they mean.

A `Place` is a position in the text with its column.  Collections are told apart by
columns: what belongs to an entry stands further to the right than the entry, and a
sequence may also stand in the column of the key that it belongs to.
-/

namespace Discern.Yaml

open Text

/-- **A position in a text.** -/
structure Place where
  column : Nat
  rest : List Char

/-- **A reader that goes on from a place,** or fails. -/
abbrev Walk := StateT Place Option

/-! ## Steps -/

/-- The next character, which is not taken. -/
def peek : Walk (Option Char) := fun p => some (p.rest.head?, p)

/-- The character after the next one. -/
def peekSecond : Walk (Option Char) := fun p => some (p.rest.tail.head?, p)

/-- Take a character. -/
def any : Walk Char := fun p =>
  match p.rest with
  | [] => none
  | '\n' :: rest => some ('\n', ⟨0, rest⟩)
  | c :: rest => some (c, ⟨p.column + 1, rest⟩)

def column : Walk Nat := fun p => some (p.column, p)

/-- Take the longest run of characters of a line that pass a test. -/
def takeWhile (test : Char → Bool) : Walk (List Char) := fun p =>
  let cs := p.rest.takeWhile fun c => c != '\n' && test c
  some (cs, ⟨p.column + cs.length, p.rest.drop cs.length⟩)

def expect (c : Char) : Walk Unit := do
  if (← any) != c then failure

/-- Try a reader, and stay where it fails. -/
def attempt {α : Type} (p : Walk α) : Walk (Option α) := fun place =>
  match p.run place with
  | some (a, place) => some (some a, place)
  | none => some (none, place)

def isBlank (c : Char) : Bool := c == ' ' || c == '\t'

def blanks : Walk Unit := do let _ ← takeWhile isBlank

def spaces : Walk Unit := do let _ ← takeWhile (· == ' ')

/-- Whether a character ends a word: a blank, a line end, or the end of the text. -/
def isBreak : Option Char → Bool
  | some c => isBlank c || c == '\n'
  | none => true

/-- Skip blanks, comments and line ends up to the next token; `lines` bounds the line
ends.  Tabs are blanks on this line where `tabs` says so, and on the next lines in a
flow collection: elsewhere a line is indented by spaces alone. -/
def toToken (inFlow : Bool) : (tabs : Bool) → (lines : Nat) → Walk Unit
  | _, 0 => failure
  | tabs, lines + 1 => do
    if tabs then blanks else spaces
    if (← peek) == some '#' then
      let _ ← takeWhile fun _ => true
    if (← peek) == some '\n' then
      let _ ← any
      toToken inFlow inFlow lines

/-- Skip to the next token after one on this line. -/
def token (inFlow : Bool) : Walk Unit := fun p => (toToken inFlow true (p.rest.length + 1)).run p

/-- Skip to the first token of a line. -/
def firstToken : Walk Unit := fun p => (toToken false false (p.rest.length + 1)).run p

/-- Whether a line begins here that ends the document. -/
def atMark : Walk Bool := fun p =>
  some (p.column == 0 &&
    (["---".toList, "...".toList].contains (p.rest.take 3) && isBreak (p.rest.drop 3).head?), p)

/-! ## Scalars -/

/-- What stands for line ends inside a scalar on several lines, of which `empty` are
empty. -/
def folded (empty : Nat) : List Char :=
  if empty = 0 then [' '] else List.replicate empty '\n'

/-- Characters of a text without the blanks at its end. -/
def trimEnd (cs : List Char) : List Char := (cs.reverse.dropWhile isBlank).reverse

/-- The line ends here and the blanks around them, and how many lines are empty.  No tab
stands in a column before `least`. -/
def lineEnds (least : Nat) : (lines : Nat) → Walk Nat
  | 0 => failure
  | lines + 1 => do
    expect '\n'
    spaces
    if (← peek) == some '\t' && (← column) < least then failure
    blanks
    if (← peek) == some '\n' then return 1 + (← lineEnds least lines) else return 0

/-- The character with a number that so many digits write. -/
def numbered (count : Nat) : Walk Char := do
  let cs ← (List.range count).mapM fun _ => any
  match Datum.readBase? 16 cs with
  | some n => if n.isValidChar then return Char.ofNat n else failure
  | none => failure

/-- The character that an escape writes; the backslash has been read. -/
def escape : Walk Char := do
  match ← any with
  | '0' => return '\x00'
  | 'a' => return '\x07'
  | 'b' => return '\x08'
  | 't' | '\t' => return '\t'
  | 'n' => return '\n'
  | 'v' => return '\x0b'
  | 'f' => return '\x0c'
  | 'r' => return '\r'
  | 'e' => return '\x1b'
  | ' ' => return ' '
  | '"' => return '"'
  | '/' => return '/'
  | '\\' => return '\\'
  | 'N' => return '\u0085'
  | '_' => return '\u00a0'
  | 'L' => return '\u2028'
  | 'P' => return '\u2029'
  | 'x' => numbered 2
  | 'u' => numbered 4
  | 'U' => numbered 8
  | _ => failure

/-- The rest of a quoted scalar; `done` holds what was read, last first. -/
def quotedRest (quote : Char) : (fuel : Nat) → (done : List Char) → Walk (List Char)
  | 0, _ => failure
  | fuel + 1, done => do
    match ← peek with
    | none => failure
    | some '\n' =>
      let empty ← lineEnds 0 fuel
      if ← atMark then failure
      quotedRest quote fuel ((folded empty).reverse ++ done.dropWhile isBlank)
    | some c =>
      let _ ← any
      if c == quote then
        if quote == '\'' && (← peek) == some '\'' then
          let _ ← any
          quotedRest quote fuel ('\'' :: done)
        else return done.reverse
      else if c == '\\' && quote == '"' then
        if (← peek) == some '\n' then
          let empty ← lineEnds 0 fuel
          quotedRest quote fuel (List.replicate empty '\n' ++ done)
        else quotedRest quote fuel ((← escape) :: done)
      else quotedRest quote fuel (c :: done)

/-- **A quoted scalar.** -/
def quoted : Walk String := fun p =>
  (do
    let quote ← any
    if quote != '"' && quote != '\'' then failure
    return String.ofList (← quotedRest quote (p.rest.length + 1) [])).run p

/-- Characters that cannot begin a plain scalar. -/
def isIndicator (c : Char) : Bool :=
  [',', '[', ']', '\x7b', '\x7d', '#', '&', '*', '!', '|', '>', '\'', '"', '%', '@',
    Char.ofNat 96].contains c

/-- Characters that end a plain scalar in a flow collection. -/
def isFlowMark (c : Char) : Bool := [',', '[', ']', '\x7b', '\x7d'].contains c

/-- How many characters of a plain scalar stand on this line; `prior` is the character
before them. -/
def plainLength (inFlow : Bool) (prior : Char) : List Char → Nat
  | [] => 0
  | c :: rest =>
    if c == '\n' then 0
    else if c == '#' && isBlank prior then 0
    else if c == ':' && (isBreak rest.head? || (inFlow && rest.head?.any isFlowMark)) then 0
    else if inFlow && isFlowMark c then 0
    else 1 + plainLength inFlow c rest

/-- The part of a plain scalar on this line. -/
def plainPart (inFlow : Bool) : Walk (List Char) := fun p =>
  let cs := trimEnd (p.rest.take (plainLength inFlow 'a' p.rest))
  if cs.isEmpty then none else some (cs, ⟨p.column + cs.length, p.rest.drop cs.length⟩)

/-- Whether a plain scalar may begin here. -/
def plainBegins (inFlow : Bool) : Walk Bool := do
  match ← peek with
  | none => return false
  | some c =>
    let next ← peekSecond
    if c == '-' || c == '?' || c == ':' then
      return !(isBreak next || (inFlow && next.any isFlowMark))
    else return !isIndicator c && !isBreak (some c)

/-- More lines of a plain scalar, each at column `least` or further right. -/
def plainMore (inFlow : Bool) (least : Nat) : (fuel : Nat) → Walk (List Char)
  | 0 => return []
  | fuel + 1 => do
    let more ← attempt do
      blanks
      let empty ← lineEnds least fuel
      if (← column) < least || (← atMark) then failure
      if (← peek) == some '#' then failure
      let part ← plainPart inFlow
      return folded empty ++ part
    match more with
    | some cs => return cs ++ (← plainMore inFlow least fuel)
    | none => return []

/-- **A plain scalar.** -/
def plain (inFlow : Bool) (least : Nat) : Walk String := fun p =>
  (do
    if !(← plainBegins inFlow) then failure
    let first ← plainPart inFlow
    return String.ofList (first ++ (← plainMore inFlow least p.rest.length))).run p

/-! ## Block scalars -/

/-- What happens to line ends at the end of a block scalar. -/
inductive Chomp where
  | clip
  | strip
  | keep
deriving DecidableEq

/-- The indicators after the mark of a block scalar: chomping and indentation. -/
def blockHeader : Walk (Chomp × Option Nat) := do
  let marks ← takeWhile fun c => c == '+' || c == '-' || ('1' ≤ c && c ≤ '9')
  let digits := marks.filter fun c => '1' ≤ c && c ≤ '9'
  let signs := marks.filter fun c => c == '+' || c == '-'
  if 1 < digits.length || 1 < signs.length then failure
  blanks
  if (← peek) == some '#' then
    let _ ← takeWhile fun _ => true
  if (← peek) == some '\n' then
    let _ ← any
  else if (← peek).isSome then failure
  let chomp := match signs with
    | ['+'] => .keep
    | ['-'] => .strip
    | _ => .clip
  return (chomp, digits.head?.map fun c => c.toNat - 48)

/-- The lines of a block scalar with their indentation taken off; an empty line stands
for a line of blanks.  Without an indentation that of the first other line counts. -/
def blockLines (least : Nat) : (indentation : Option Nat) → (fuel : Nat) →
    Walk (List (List Char))
  | _, 0 => return []
  | indentation, fuel + 1 => do
    let line ← attempt do
      if (← peek).isNone || (← atMark) then failure
      let lead ← takeWhile (· == ' ')
      if (← peek).all (· == '\n') then
        if (← peek).isSome then
          let _ ← any
        return (indentation, lead.drop (indentation.getD lead.length))
      else
        let width := indentation.getD lead.length
        if lead.length < width || width < least then failure
        let text ← takeWhile fun _ => true
        if (← peek).isSome then
          let _ ← any
        return (some width, lead.drop width ++ text)
    match line with
    | some (indentation, text) => return text :: (← blockLines least indentation fuel)
    | none => return []

/-- Whether a line of a folded scalar keeps its line end. -/
def isFixed (line : List Char) : Bool := line.head?.any isBlank

/-- The lines of a folded scalar in one text. -/
def foldLines : List (List Char) → List Char
  | [] => []
  | [line] => line
  | line :: rest =>
    let empty := (rest.takeWhile List.isEmpty).length
    match rest.drop empty with
    | [] => line
    | next :: _ =>
      let joint :=
        if line.isEmpty || isFixed line || isFixed next then ['\n']
        else if empty = 0 then [' ']
        else []
      line ++ joint ++ foldLines rest

/-- **A block scalar.** -/
def blockScalar (least : Nat) : Walk String := fun p =>
  (do
    let mark ← any
    let (chomp, indicated) ← blockHeader
    let indentation := indicated.map fun n => least - 1 + n
    let lines ← blockLines least indentation (p.rest.length + 1)
    let body := (lines.reverse.dropWhile List.isEmpty).reverse
    let trailing := lines.length - body.length
    let text := if mark == '|' then ['\n'].intercalate body else foldLines body
    let ending := match chomp with
      | .strip => []
      | .clip => if body.isEmpty then [] else ['\n']
      | .keep => List.replicate (if body.isEmpty then trailing else trailing + 1) '\n'
    return String.ofList (text ++ ending)).run p

/-! ## Collections -/

/-- A scalar in a flow collection or on one line. -/
def scalar (inFlow : Bool) (least : Nat) : Walk Datum := do
  match ← peek with
  | some '"' | some '\'' => return .text (← quoted)
  | _ => return .plain (← plain inFlow least)

mutual

/-- A value in a flow collection. -/
def flowValue : (fuel : Nat) → Walk Datum
  | 0 => failure
  | fuel + 1 => do
    match ← peek with
    | some '[' => do
      let _ ← any
      token true
      return .seq (← flowItems fuel)
    | some '\x7b' => do
      let _ ← any
      token true
      return .map (← flowEntries fuel)
    | _ => scalar true 0

/-- The items of a flow sequence up to its end. -/
def flowItems : (fuel : Nat) → Walk (List Datum)
  | 0 => failure
  | fuel + 1 => do
    if (← peek) == some ']' then
      let _ ← any
      return []
    let item ← flowValue fuel
    token true
    if (← peek) == some ',' then
      let _ ← any
      token true
      return item :: (← flowItems fuel)
    expect ']'
    return [item]

/-- The entries of a flow map up to its end. -/
def flowEntries : (fuel : Nat) → Walk (List (String × Datum))
  | 0 => failure
  | fuel + 1 => do
    if (← peek) == some '\x7d' then
      let _ ← any
      return []
    let key ← match ← scalar true 0 with
      | .text s => pure s
      | .plain s => pure s
      | _ => failure
    token true
    let value ← if (← peek) == some ':' then do
        let _ ← any
        token true
        match ← peek with
        | some ',' | some '\x7d' => pure (Datum.plain "")
        | _ => flowValue fuel
      else pure (Datum.plain "")
    token true
    if (← peek) == some ',' then
      let _ ← any
      token true
      return (key, value) :: (← flowEntries fuel)
    expect '\x7d'
    return [(key, value)]

end

/-- Whether an item of a block sequence begins here. -/
def atItem : Walk Bool := do
  return (← peek) == some '-' && isBreak (← peekSecond)

/-- A key on one line and the colon after it. -/
def blockKey : Walk String := do
  let line ← column
  let key ← match ← peek with
    | some '"' | some '\'' => quoted
    | _ => do
      if !(← plainBegins false) then failure
      pure (String.ofList (← plainPart false))
  blanks
  expect ':'
  if (← column) ≤ line || !isBreak (← peek) then failure
  return key

mutual

/-- A value that begins at a token, at column `least` or further right.  Entries and
items may begin here only where `collection` says so. -/
def blockValue (collection : Bool) (least : Nat) : (fuel : Nat) → Walk Datum
  | 0 => failure
  | fuel + 1 => do
    let here ← column
    if collection && (← atItem) then return .seq (← blockItems here fuel)
    match ← if collection then attempt blockKey else pure none with
    | some key => return .map (← blockEntries here key fuel)
    | none => do
      match ← peek with
      | some '|' | some '>' => return .text (← blockScalar least)
      | some '[' | some '\x7b' => flowValue (fuel + 1)
      | _ => scalar false least
termination_by structural fuel => fuel

/-- What belongs to an item or a key in column `here` that was just read.  `aligned`
lets a sequence stand in the same column. -/
def blockPart (here : Nat) (inLine aligned : Bool) : (fuel : Nat) → Walk Datum
  | 0 => failure
  | fuel + 1 => do
    if inLine then spaces else blanks
    match ← peek with
    | none | some '\n' | some '#' => do
      token false
      let there ← column
      if (← peek).isNone || (← atMark) then return .plain ""
      else if here < there then blockValue true (here + 1) fuel
      else if aligned && there == here && (← atItem) then return .seq (← blockItems here fuel)
      else return .plain ""
    | some _ => blockValue inLine (here + 1) fuel
termination_by structural fuel => fuel

/-- The items of a block sequence in column `here`, from an item on. -/
def blockItems (here : Nat) : (fuel : Nat) → Walk (List Datum)
  | 0 => failure
  | fuel + 1 => do
    expect '-'
    let item ← blockPart here true false fuel
    token false
    if (← column) == here && (← atItem) then return item :: (← blockItems here fuel)
    return [item]
termination_by structural fuel => fuel

/-- The entries of a block map in column `here`, of which the first key was read. -/
def blockEntries (here : Nat) (key : String) : (fuel : Nat) → Walk (List (String × Datum))
  | 0 => failure
  | fuel + 1 => do
    let value ← blockPart here false true fuel
    token false
    if (← column) == here && (← peek).isSome && !(← atMark) && !(← atItem) then
      return (key, value) :: (← blockEntries here (← blockKey) fuel)
    return [(key, value)]
termination_by structural fuel => fuel

end

/-- A version directive: a line that names a version that is read here. -/
def directive : Walk Unit := do
  let line ← takeWhile fun _ => true
  match (line.takeWhile (· != '#')).splitOnP isBlank |>.filter (!·.isEmpty) with
  | [name, version] =>
    if name != "%YAML".toList || !(["1.1".toList, "1.2".toList].contains version) then failure
  | _ => failure

/-- A document: one value, which may have marks before and after it. -/
def document : Walk Datum := fun p =>
  (do
    firstToken
    let directed := (← column) == 0 && (← peek) == some '%'
    if directed then
      directive
      firstToken
    if ← atMark then
      expect '-'
      expect '-'
      expect '-'
      token false
    else if directed then failure
    let d ← if (← peek).isNone || (← atMark) then pure (Datum.plain "")
      else blockValue true 0 (4 * p.rest.length + 4)
    token false
    if ← atMark then
      expect '.'
      expect '.'
      expect '.'
      token false
    if (← peek).isSome then failure
    return d).run p

/-- The line ends of a text, of which each may have a carriage return before it. -/
def unifyLineEnds : List Char → List Char
  | '\r' :: '\n' :: rest => '\n' :: unifyLineEnds rest
  | '\r' :: rest => '\n' :: unifyLineEnds rest
  | c :: rest => c :: unifyLineEnds rest
  | [] => []

/-- **Read a YAML document.** -/
def parse? (text : String) : Option Datum :=
  let cs := match text.toList with
    | '\ufeff' :: rest => rest
    | cs => cs
  (document.run ⟨0, unifyLineEnds cs⟩).map Prod.fst

end Discern.Yaml
