import Discern.Regex.Class

/-!
# Reading regular expressions

The text of a pattern is read from left to right under flags that groups open and
close:

* `i` ignores case, `m` lets `^` and `$` stand at line ends, `s` lets `.` take
  line feeds, `R` makes `\r\n` a line end, `x` skips blanks and comments;
* `u`, which is on at first, takes whole code points; without it the pattern
  takes single bytes;
* `U` swaps greedy and lazy operators, which makes no difference to a search.

`Regex.parse?` refuses what is no pattern: operators without an operand, open
groups and classes, unknown escapes, look-around, repeated group names, and
patterns that are nested or repeated beyond all measure.
-/

namespace Discern.Regex

open Text

/-- The flags in force at a place of the pattern. -/
structure Flags where
  ignoreCase : Bool := false
  multiLine : Bool := false
  dotAll : Bool := false
  unicode : Bool := true
  spaced : Bool := false
  crlf : Bool := false

/-- **What is left to read,** the flags in force, and the group names seen. -/
structure Reading where
  rest : List Char
  flags : Flags := {}
  names : List (List Char) := []

/-- Readers of a part of a pattern. -/
abbrev Parse := StateT Reading Option

/-- A regex, and how deep its operators are nested. -/
structure Node where
  regex : Regex
  depth : Nat := 0
deriving Inhabited

/-! ## Moving through the pattern -/

private def peek : Parse (Option Char) := do return (← get).rest.head?

private def flags : Parse Flags := do return (← get).flags

private def setFlags (flags : Flags) : Parse Unit := modify fun r => { r with flags }

/-- Move past one character. -/
private def bump : Parse Unit := modify fun r => { r with rest := r.rest.drop 1 }

/-- The text after blanks and comments. -/
def skipComments : List Char → List Char
  | [] => []
  | c :: rest =>
    if isBlank c then skipComments rest
    else if c == '#' then inComment rest
    else c :: rest
where
  inComment : List Char → List Char
    | [] => []
    | '\n' :: rest => skipComments rest
    | _ :: rest => inComment rest

/-- Under the flag `x`, move past blanks and comments. -/
private def skipSpaced : Parse Unit := modify fun r =>
  if r.flags.spaced then { r with rest := skipComments r.rest } else r

/-- Move past one character and what the flag `x` skips; there has to be more. -/
private def advance : Parse Char := do
  bump
  skipSpaced
  match ← peek with
  | some c => return c
  | none => failure

/-- Move past a word if it comes next. -/
private def bumpIf (word : List Char) : Parse Bool := do
  if word.isPrefixOf (← get).rest then
    modify fun r => { r with rest := r.rest.drop word.length }
    return true
  else return false

/-! ## Numbers and escapes -/

private def hexDigit? (c : Char) : Option Nat :=
  if '0' ≤ c ∧ c ≤ '9' then some (c.toNat - 48)
  else if 'a' ≤ c ∧ c ≤ 'f' then some (c.toNat - 87)
  else if 'A' ≤ c ∧ c ≤ 'F' then some (c.toNat - 55)
  else none

/-- The scalar value with a number. -/
private def scalarOf (n : Nat) : Parse Char :=
  if h : n.isValidChar then return Char.ofNatAux n h else failure

/-- Digits up to a closing brace; the opening one comes next. -/
private def bracedDigits : (fuel value count : Nat) → Parse Nat
  | 0, _, _ => failure
  | fuel + 1, value, count => do
    let c ← advance
    if c == '\x7d' then
      if count == 0 then failure
      bump
      skipSpaced
      return value
    else
      match hexDigit? c with
      | some d => bracedDigits fuel (16 * value + d) (count + 1)
      | none => failure

/-- A fixed number of digits, the first of which comes next. -/
private def fixedDigits : (count value : Nat) → Parse Nat
  | 0, value => return value
  | count + 1, value => do
    match (← peek).bind hexDigit? with
    | some d =>
      bump
      skipSpaced
      fixedDigits count (16 * value + d)
    | none => failure

/-- What an escape stands for. -/
private inductive Escape where
  | char (c : Char)
  /-- A character written by two digits, which is a byte where bytes are taken. -/
  | shortHex (c : Char)
  | set (set : CodeSet)
  | look (look : Look)

/-- A hexadecimal escape; the letter that opens it comes next. -/
private def hexEscape (letter : Char) (digits : Nat) : Parse Escape := do
  let c ← advance
  if c == '\x7b' then
    return .char (← scalarOf (← bracedDigits (← get).rest.length 0 0))
  else
    let c ← scalarOf (← fixedDigits digits 0)
    return if letter == 'x' then .shortHex c else .char c

private def negateIf (negated : Bool) (set : CodeSet) : CodeSet :=
  if negated then set.complement else set

/-- Add the case variants of the members under the flag `i`. -/
private def foldUnder (flags : Flags) (set : CodeSet) : CodeSet :=
  if flags.ignoreCase then set.foldCase flags.unicode else set

/-- A class by its Unicode property; the letter that opens it comes next. -/
private def propertyEscape (negated : Bool) : Parse Escape := do
  let c ← advance
  let flags ← flags
  if !flags.unicode then failure
  let set ←
    if c == '\x7b' then do
      let rest := (← get).rest.drop 1
      let rest := if flags.spaced then rest.filter (fun c => !isBlank c) else rest
      let name := rest.takeWhile (· != '\x7d')
      if name.length == rest.length then failure
      modify fun r => { r with rest := (r.rest.dropWhile (· != '\x7d')).drop 1 }
      match name.dropWhile fun c => c != '=' && c != ':' with
      | [] => (CodeSet.property? name : Parse CodeSet)
      | _ :: value =>
        let key := name.takeWhile fun c => c != '=' && c != ':'
        if key.getLast? == some '!' then
          return .set (negateIf (!negated)
            (foldUnder flags (← (CodeSet.propertyValue? key.dropLast value : Parse CodeSet))))
        else (CodeSet.propertyValue? key value : Parse CodeSet)
    else do
      if c == '\\' then failure
      bump
      skipSpaced
      (CodeSet.property? [c] : Parse CodeSet)
  return .set (negateIf negated (foldUnder flags set))

/-- The kinds of boundaries named between braces after `\b`. -/
private def boundary? (unicode : Bool) : String → Option Look
  | "start" => some (.wordStart unicode)
  | "end" => some (.wordEnd unicode)
  | "start-half" => some (.wordStartHalf unicode)
  | "end-half" => some (.wordEndHalf unicode)
  | _ => none

/-- Letters and dashes. -/
private def isBoundaryChar (c : Char) : Bool := c.isAlpha || c == '-'

/-- What follows `\b`: the name of a boundary between braces, or nothing of it. -/
private def boundary (unicode : Bool) : Parse Look := do
  if (← peek) != some '\x7b' then return .wordBoundary unicode
  let before ← get
  let c ← advance
  if isBoundaryChar c then
    let spaced := before.flags.spaced
    let inner := (← get).rest.takeWhile fun c => isBoundaryChar c || (spaced && isBlank c)
    let name := inner.filter isBoundaryChar
    modify fun r => { r with rest := r.rest.drop inner.length }
    if (← peek) != some '\x7d' then failure
    bump
    (boundary? unicode (String.ofList name) : Parse Look)
  else
    set before
    return .wordBoundary unicode

/-- The characters that mean something in patterns. -/
private def metaCharacters : List Char := "\\.+*?()|[]\x7b\x7d^$#&-~".toList

/-- **An escape;** its backslash comes next. -/
private def escape : Parse Escape := do
  bump
  let some c ← peek | failure
  let flags ← flags
  let short (set : CodeSet) (negated : Bool) : Parse Escape := do
    bump
    return .set (negateIf negated set)
  match c with
  | 'x' => hexEscape 'x' 2
  | 'u' => hexEscape 'u' 4
  | 'U' => hexEscape 'U' 8
  | 'p' => propertyEscape false
  | 'P' => propertyEscape true
  | 'd' => short (.digit flags.unicode) false
  | 'D' => short (.digit flags.unicode) true
  | 's' => short (.space flags.unicode) false
  | 'S' => short (.space flags.unicode) true
  | 'w' => short (.word flags.unicode) false
  | 'W' => short (.word flags.unicode) true
  | _ =>
    bump
    if metaCharacters.contains c then return .char c
    match c with
    | 'a' => return .char '\x07'
    | 'f' => return .char '\x0c'
    | 't' => return .char '\t'
    | 'n' => return .char '\n'
    | 'r' => return .char '\r'
    | 'v' => return .char '\x0b'
    | 'A' => return .look .textStart
    | 'z' => return .look .textEnd
    | 'b' => return .look (← boundary flags.unicode)
    | 'B' => return .look (.notWordBoundary flags.unicode)
    | '<' => return .look (.wordStart flags.unicode)
    | '>' => return .look (.wordEnd flags.unicode)
    | _ => if c.toNat < 128 && !c.isAlphanum then return .char c else failure

/-! ## Classes -/

/-- The code of a character in a class.  Where bytes are taken, it has to be one. -/
private def classCode (flags : Flags) : Escape → Option Nat
  | .char c => if flags.unicode || c.toNat < 128 then some c.toNat else none
  | .shortHex c => some c.toNat
  | _ => none

/-- One character, escape or short class inside a class. -/
private def classItem : Parse Escape := do
  match ← peek with
  | some '\\' => escape
  | some c =>
    bump
    return .char c
  | none => failure

/-- What comes after the next character, past what the flag `x` skips. -/
private def peekBeyond : Parse (Option Char) := do
  let r ← get
  let rest := r.rest.drop 1
  return (if r.flags.spaced then skipComments rest else rest).head?

/-- A range, or an item that opens none. -/
private def classRange : Parse CodeSet := do
  let flags ← flags
  let first ← classItem
  skipSpaced
  let some next ← peek | failure
  let beyond ← peekBeyond
  if next != '-' || beyond == some ']' || beyond == some '-' then
    match first with
    | .set s => return s
    | item => do
      match classCode flags item with
      | some code => return .single code
      | none => failure
  else
    let _ ← advance
    let last ← classItem
    match classCode flags first, classCode flags last with
    | some a, some b => if a ≤ b then return .range a b else failure
    | _, _ => failure

/-- A class such as `[:alpha:]`; without one nothing is read. -/
private def asciiClass? : Parse (Option CodeSet) := do
  let before ← get
  let found : Option (CodeSet × List Char) := do
    let rest ← match before.rest with
      | '[' :: ':' :: rest => some rest
      | _ => none
    let (negated, rest) := match rest with
      | '^' :: rest => (true, rest)
      | rest => (false, rest)
    let name := rest.takeWhile (· != ':')
    match rest.dropWhile (· != ':') with
    | ':' :: ']' :: rest => do
      let set ← CodeSet.ascii? (String.ofList name)
      return (negateIf negated (foldUnder before.flags set), rest)
    | _ => none
  match found with
  | some (set, rest) =>
    modify fun r => { r with rest }
    return some set
  | none => return none

/-- A binary operation on classes, by the sign that is written twice. -/
private def classOperation? : Char → Option (CodeSet → CodeSet → CodeSet)
  | '&' => some fun a b n => a n && b n
  | '-' => some fun a b n => a n && !b n
  | '~' => some fun a b n => a n != b n
  | _ => none

/-- **The inside of a class.**  `pending` is the operation whose right side is being
read, and `union` what has been read of it. -/
private def classBody (inner : Parse (CodeSet × Nat)) :
    (fuel : Nat) → (pending : Option (CodeSet → CodeSet)) → (union : CodeSet) → (depth : Nat) →
      Parse (CodeSet × Nat)
  | 0, _, _, _ => failure
  | fuel + 1, pending, union, depth => do
    skipSpaced
    let some c ← peek | failure
    let flags ← flags
    let close (set : CodeSet) : CodeSet :=
      match pending with
      | some operation => operation (foldUnder flags set)
      | none => set
    if c == ']' then
      bump
      return (close union, depth + 1)
    else if c == '[' then
      match ← asciiClass? with
      | some set => classBody inner fuel pending (union.union set) depth
      | none =>
        let (set, d) ← inner
        classBody inner fuel pending (union.union set) (max depth d)
    else
      match classOperation? c, (← get).rest.drop 1 with
      | some operation, next :: _ =>
        if next == c then
          bump
          bump
          let left := foldUnder flags (close union)
          classBody inner fuel (some (operation left)) .none (depth + 1)
        else
          let set ← classRange
          classBody inner fuel pending (union.union set) depth
      | _, _ =>
        let set ← classRange
        classBody inner fuel pending (union.union set) depth

/-- The dashes with which a class begins. -/
private def leadingDashes : (fuel : Nat) → CodeSet → Parse (CodeSet × Bool)
  | 0, _ => failure
  | fuel + 1, set => do
    if (← peek) == some '-' then
      let _ ← advance
      let (set, _) ← leadingDashes fuel (set.union (.single 45))
      return (set, true)
    else return (set, false)

/-- **A class in brackets;** its opening bracket comes next.  At most `nesting`
classes stand inside each other. -/
private def bracketClass : (nesting : Nat) → Parse (CodeSet × Nat)
  | 0 => failure
  | nesting + 1 => do
    let negated ← do
      if (← advance) == '^' then
        let _ ← advance
        pure true
      else pure false
    let fuel := (← get).rest.length + 1
    let (set, dashes) ← leadingDashes fuel .none
    let set ←
      if !dashes && (← peek) == some ']' then do
        let _ ← advance
        pure (set.union (.single 93))
      else pure set
    let (set, depth) ← classBody (bracketClass nesting) fuel none set 0
    return (negateIf negated (foldUnder (← flags) set), depth + 1)

/-! ## Operators and groups -/

/-- The regex of one code point, or of one byte where bytes are taken. -/
private def regexOfSet (flags : Flags) (set : CodeSet) : Regex :=
  if flags.unicode then .scalar set else .byte set

/-- The regex of a character that stands for itself. -/
private def regexOfChar (flags : Flags) (c : Char) : Regex :=
  if flags.unicode then .scalar (foldUnder flags (.single c.toNat))
  else if c.toNat < 128 then .byte (foldUnder flags (.single c.toNat))
  else .scalar (.single c.toNat)

/-- The regex of an escape. -/
private def regexOfEscape (flags : Flags) : Escape → Regex
  | .char c => regexOfChar flags c
  | .shortHex c =>
    if flags.unicode || c.toNat < 128 then regexOfChar flags c else .byte (.single c.toNat)
  | .set s => regexOfSet flags s
  | .look l => .look l

/-- What `.` takes. -/
private def dot (flags : Flags) : Regex :=
  regexOfSet flags fun n => flags.dotAll || !(n == 10 || (flags.crlf && n == 13))

/-- A part of a branch: a regex, or a change of flags, which takes no operator. -/
private inductive Piece where
  | node (node : Node)
  | flagChange

/-- The regex of the parts of a branch, given last first. -/
private def branch (pieces : List Piece) : Node :=
  let nodes := pieces.filterMap fun
    | .node n => some n
    | .flagChange => none
  let regex := match nodes with
    | [] => .empty
    | last :: before => before.foldl (fun r n => .cat n.regex r) last.regex
  let depth := nodes.foldl (fun d n => max d n.depth) 0
  ⟨regex, if pieces.length > 1 then depth + 1 else depth⟩

/-- The regex of the branches of a group, given last first. -/
private def branches (nodes : List Node) : Node :=
  let regex := match nodes with
    | [] => .empty
    | last :: before => before.foldl (fun r n => .either n.regex r) last.regex
  let depth := nodes.foldl (fun d n => max d n.depth) 0
  ⟨regex, if nodes.length > 1 then depth + 1 else depth⟩

/-- Put an operator on the last part of a branch. -/
private def repeated (pieces : List Piece) (min : Nat) (max : Option Nat) : Parse (List Piece) :=
  match pieces with
  | .node n :: before => return .node ⟨.loop n.regex min max, n.depth + 1⟩ :: before
  | _ => failure

/-- A decimal number with blanks around it, below 2^32.  Without digits there is
none. -/
private def decimal? : Parse (Option Nat) := do
  let r ← get
  let spaced := r.flags.spaced
  let rest := r.rest.dropWhile isBlank
  let digits := rest.takeWhile fun c => c.isDigit || (spaced && isBlank c)
  let rest := (rest.drop digits.length).dropWhile isBlank
  modify fun r => { r with rest }
  skipSpaced
  let digits := digits.filter Char.isDigit
  if digits.isEmpty then return none
  let n := digits.foldl (fun n c => 10 * n + (c.toNat - 48)) 0
  if n < UInt32.size then return some n else failure

/-- A repetition by counts; its opening brace comes next. -/
private def counted : Parse (Nat × Option Nat) := do
  let _ ← advance
  let min ← decimal?
  let some min := min | failure
  let bounds ←
    if (← peek) == some ',' then do
      if (← advance) == '\x7d' then pure (min, none)
      else
        let some max ← decimal? | failure
        pure (min, some max)
    else pure (min, some min)
  if (← peek) != some '\x7d' then failure
  bump
  skipSpaced
  if (← peek) == some '?' then bump
  match bounds.2 with
  | some max => if max < min then failure else return bounds
  | none => return bounds

/-- Flags before `:` or `)`.  No flag comes twice, and a `-` is followed by one. -/
private def flagItems : (fuel : Nat) → (seen : List Char) → (on : Bool) → Flags → Parse Flags
  | 0, _, _, _ => failure
  | fuel + 1, seen, on, flags => do
    let some c ← peek | failure
    if c == ':' || c == ')' then
      if seen.head? == some '-' then failure else return flags
    else
      if seen.contains c then failure
      bump
      let next ← match c with
        | '-' => pure flags
        | 'i' => pure { flags with ignoreCase := on }
        | 'm' => pure { flags with multiLine := on }
        | 's' => pure { flags with dotAll := on }
        | 'u' => pure { flags with unicode := on }
        | 'x' => pure { flags with spaced := on }
        | 'R' => pure { flags with crlf := on }
        | 'U' => pure flags
        | _ => failure
      flagItems fuel (c :: seen) (on && c != '-') next

/-- Whether a character may stand in the name of a group. -/
private def isNameChar (first : Bool) (c : Char) : Bool :=
  c == '_' || (Unicode.isWord c.toNat && !(first && Unicode.Category.decimalNumber.contains c.toNat))
    || (!first && (c == '.' || c == '[' || c == ']'))

/-- The name of a group up to `>`; no two groups share one. -/
private def groupName : Parse Unit := do
  let r ← get
  let name := r.rest.takeWhile (· != '>')
  let valid := match name with
    | [] => false
    | first :: more => isNameChar true first && more.all (isNameChar false)
  if !valid || name.length == r.rest.length || r.names.contains name then failure
  set { r with rest := r.rest.drop (name.length + 1), names := name :: r.names }

/-- The rest of a group after what opens it, under `flags`; the flags outside come
back into force at its end. -/
private def closeGroup (inner : Parse Node) (flags : Flags) : Parse Piece := do
  let outer := (← get).flags
  setFlags flags
  let node ← inner
  if (← peek) != some ')' then failure
  bump
  setFlags outer
  return .node { node with depth := node.depth + 1 }

/-- **What begins with a parenthesis:** a group or a change of flags. -/
private def parenthesis (inner : Parse Node) : Parse Piece := do
  bump
  skipSpaced
  let current ← flags
  let rest := (← get).rest
  if [['?', '='], ['?', '!'], ['?', '<', '='], ['?', '<', '!']].any (·.isPrefixOf rest) then
    failure
  if (← bumpIf ['?', 'P', '<']) || (← bumpIf ['?', '<']) then
    groupName
    closeGroup inner current
  else if ← bumpIf ['?'] then
    let length := (← get).rest.length
    let changed ← flagItems (length + 1) [] true current
    let empty := (← get).rest.length == length
    if (← peek) == some ')' then
      if empty then failure
      bump
      setFlags changed
      return .flagChange
    else
      bump
      closeGroup inner changed
  else closeGroup inner current

/-- **The parts of a group up to its end.**  `pieces` are those of the open branch
and `done` the branches before it, both last first. -/
private def parts (inner : Parse Node) :
    (fuel : Nat) → (pieces : List Piece) → (done : List Node) → Parse Node
  | 0, _, _ => failure
  | fuel + 1, pieces, done => do
    skipSpaced
    let current ← flags
    let literal (regex : Regex) : Parse Node := parts inner fuel (.node ⟨regex, 0⟩ :: pieces) done
    let operator (min : Nat) (max : Option Nat) : Parse Node := do
      let pieces ← repeated pieces min max
      bump
      if (← peek) == some '?' then bump
      parts inner fuel pieces done
    match ← peek with
    | none | some ')' => return branches (branch pieces :: done)
    | some '|' =>
      bump
      parts inner fuel [] (branch pieces :: done)
    | some '(' =>
      let piece ← parenthesis inner
      parts inner fuel (piece :: pieces) done
    | some '[' =>
      let (set, depth) ← bracketClass 251
      parts inner fuel (.node ⟨regexOfSet current set, depth⟩ :: pieces) done
    | some '?' => operator 0 (some 1)
    | some '*' => operator 0 none
    | some '+' => operator 1 none
    | some '\x7b' =>
      let _ ← repeated pieces 0 none
      let (min, max) ← counted
      let pieces ← repeated pieces min max
      parts inner fuel pieces done
    | some '\\' => literal (regexOfEscape current (← escape))
    | some '.' =>
      bump
      literal (dot current)
    | some '^' =>
      bump
      literal (.look (if !current.multiLine then .textStart
        else if current.crlf then .lineStartCrlf else .lineStart))
    | some '$' =>
      bump
      literal (.look (if !current.multiLine then .textEnd
        else if current.crlf then .lineEndCrlf else .lineEnd))
    | some c =>
      bump
      literal (regexOfChar current c)

/-- The inside of a group, with at most `nesting` groups inside each other. -/
private def group : (nesting : Nat) → Parse Node
  | 0 => failure
  | nesting + 1 => do parts (group nesting) ((← get).rest.length + 1) [] []

/-- How deep operators may be nested. -/
def maxDepth : Nat := 250

/-- How heavy a regex may be: ten mebibytes at 32 bytes for a state. -/
def maxWeight : Nat := 327680

/-- **Read a pattern.** -/
def parse? (pattern : String) : Option Regex := do
  let (node, r) ← (group (maxDepth + 1)).run { rest := pattern.toList }
  if r.rest.isEmpty && node.depth ≤ maxDepth && node.regex.weight < maxWeight then
    some node.regex
  else none

end Discern.Regex
