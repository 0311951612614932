import Discern.Document.Datum
import Discern.Text.Scan

/-!
# Scalars of TOML

Strings are basic, with escapes, or literal; both may run over several lines when
they stand between three quotes.  Everything else without parts is a word: a truth
value, an integer in one of four bases, a float, or a date or time.  Digits may be
grouped by single underscores.
-/

namespace Discern.Toml

open Text

def isBlank (c : Char) : Bool := c == ' ' || c == '\t'

def blanks : Scan Unit := Scan.skipWhile isBlank

/-- A line feed, with or without a carriage return before it. -/
def newline : Scan Unit := Scan.char '\n' <|> Scan.literal ['\r', '\n']

/-- Characters that may stand in strings and comments as they are. -/
def isPlain (c : Char) : Bool := c == '\t' || (0x20 ≤ c.toNat && c != '\x7f')

/-! ## Strings -/

/-- The character of a number. -/
def scalarOf (n : Nat) : Scan Char :=
  if n.isValidChar then return Char.ofNat n else failure

/-- The character that an escape writes; the backslash has been read. -/
def escape : Scan Char := do
  match ← Scan.any with
  | 'b' => return '\x08'
  | 't' => return '\t'
  | 'n' => return '\n'
  | 'f' => return '\x0c'
  | 'r' => return '\r'
  | '"' => return '"'
  | '\\' => return '\\'
  | 'u' => do scalarOf (← Scan.hexNumber 4)
  | 'U' => do scalarOf (← Scan.hexNumber 8)
  | _ => failure

def basicChar : Scan Char := do
  let c ← Scan.satisfy fun c => isPlain c && c != '"'
  if c == '\\' then escape else return c

/-- Characters between one quote and the next. -/
def quoted (quote : Char) (char : Scan Char) : Scan String := do
  Scan.char quote
  let cs ← Scan.many char
  Scan.char quote
  return String.ofList cs

def literalChar : Scan Char := Scan.satisfy fun c => isPlain c && c != '\''

def oneLine : Scan String := quoted '"' basicChar <|> quoted '\'' literalChar

/-- A backslash at the end of a line, with all blanks and line ends after it. -/
def lineContinuation : Scan (List Char) := do
  Scan.char '\\'
  blanks
  newline
  let _ ← Scan.many (newline <|> (do let _ ← Scan.takeWhile1 isBlank))
  return []

/-- At most two quotes before something else. -/
def innerQuotes (quote : Char) : Scan (List Char) := do
  let quotes ← Scan.takeWhile (· == quote)
  if quotes.isEmpty || 2 < quotes.length then failure else return quotes

/-- What stands between three quotes, up to two quotes at the end included.  A line end
right after the opening quotes does not count. -/
def tripleQuoted (quote : Char) (piece : Scan (List Char)) : Scan String := do
  Scan.literal [quote, quote, quote]
  let _ ← Scan.optional? newline
  let line : Scan (List Char) := do
    newline
    return ['\n']
  let pieces ← Scan.many (piece <|> line <|> innerQuotes quote)
  let closing ← Scan.takeWhile (· == quote)
  if 3 ≤ closing.length ∧ closing.length ≤ 5 then
    return String.ofList (pieces.flatten ++ closing.drop 3)
  else failure

def manyLines : Scan String :=
  tripleQuoted '"' (lineContinuation <|> (do return [← basicChar])) <|>
    tripleQuoted '\'' (do return [← literalChar])

def string : Scan String := manyLines <|> oneLine

/-! ## Words -/

/-- The digits of a text in which single underscores may stand between digits. -/
def ungroup? (isDigit : Char → Bool) (cs : List Char) : Option (List Char) :=
  let groups := cs.splitOn '_'
  if groups.all fun group => !group.isEmpty && group.all isDigit then some groups.flatten
  else none

def isDigit (c : Char) : Bool := '0' ≤ c && c ≤ '9'

/-- A sign that may be missing, and the rest. -/
def splitSign : List Char → Bool × List Char
  | '-' :: rest => (true, rest)
  | '+' :: rest => (false, rest)
  | cs => (false, cs)

/-- A decimal number without needless zeros. -/
def decimal? (cs : List Char) : Option Nat := do
  let digits ← ungroup? isDigit cs
  if 1 < cs.length && cs.head? == some '0' then none else Datum.readBase? 10 digits

/-- A number in a base of 16, 8 or 2. -/
def based? (base : Nat) (cs : List Char) : Option Nat := do
  Datum.readBase? base (← ungroup? (fun c => (Datum.readBase? base [c]).isSome) cs)

/-- An integer that fits into a signed 64-bit word. -/
def integer? (cs : List Char) : Option Datum := do
  let n : Int ← match cs with
    | '0' :: 'x' :: digits => (based? 16 digits).map Int.ofNat
    | '0' :: 'o' :: digits => (based? 8 digits).map Int.ofNat
    | '0' :: 'b' :: digits => (based? 2 digits).map Int.ofNat
    | _ =>
      let (negative, digits) := splitSign cs
      (decimal? digits).map fun n => if negative then - Int.ofNat n else Int.ofNat n
  if Int64.minValue.toInt ≤ n ∧ n ≤ Int64.maxValue.toInt then some (.integer n) else none

/-- A float: with places, with an exponent, with both, or a special value. -/
def float? (cs : List Char) : Option Datum := do
  let (negative, unsigned) := splitSign cs
  if unsigned = "inf".toList ∨ unsigned = "nan".toList then
    return .special (String.ofList cs)
  let mantissa := unsigned.takeWhile fun c => c != 'e' && c != 'E'
  let exponent ← match unsigned.drop mantissa.length with
    | [] => some 0
    | _ :: rest => do
      let (down, digits) := splitSign rest
      let n ← Datum.readBase? 10 (← ungroup? isDigit digits)
      pure (if down then - Int.ofNat n else Int.ofNat n)
  let whole := mantissa.takeWhile (· != '.')
  let n ← decimal? whole
  let places ← match mantissa.drop whole.length with
    | [] => if mantissa.length = unsigned.length then none else some []
    | _ :: rest => ungroup? isDigit rest
  let significand := n * Nat.pow 10 places.length + (← (Datum.readBase? 10 ('0' :: places)))
  return .real (if negative then - Int.ofNat significand else significand)
    (exponent - places.length)

/-- The number that exactly `count` digits write. -/
def digits (count : Nat) : Scan Nat := do
  let cs ← (List.range count).mapM fun _ => Scan.satisfy isDigit
  match Datum.readBase? 10 cs with
  | some n => return n
  | none => failure

/-- A number of a range, written with two digits. -/
def between (least greatest : Nat) : Scan Unit := do
  let n ← digits 2
  if least ≤ n ∧ n ≤ greatest then return () else failure

def daysIn (year month : Nat) : Nat :=
  if month = 2 then
    if year % 4 = 0 ∧ (year % 100 ≠ 0 ∨ year % 400 = 0) then 29 else 28
  else if [4, 6, 9, 11].contains month then 30
  else 31

def date : Scan Unit := do
  let year ← digits 4
  Scan.char '-'
  let month ← digits 2
  if month = 0 ∨ 12 < month then failure
  Scan.char '-'
  between 1 (daysIn year month)

def time : Scan Unit := do
  between 0 23
  Scan.char ':'
  between 0 59
  Scan.char ':'
  between 0 60
  let _ ← Scan.optional? do
    Scan.char '.'
    Scan.takeWhile1 isDigit

def zone : Scan Unit :=
  (do let _ ← Scan.satisfy fun c => c == 'Z' || c == 'z') <|> do
    let _ ← Scan.satisfy fun c => c == '+' || c == '-'
    between 0 23
    Scan.char ':'
    between 0 59

/-- A date, a time, or both with or without a zone. -/
def moment : Scan Unit :=
  (do
    date
    let _ ← Scan.optional? do
      let _ ← Scan.satisfy fun c => c == 'T' || c == 't' || c == ' '
      time
      Scan.optional? zone) <|> time

/-- A date or time as it is written. -/
def dated : Scan Datum := fun cs =>
  match moment.run cs with
  | some (_, rest) => some (.special (String.ofList (cs.take (cs.length - rest.length))), rest)
  | none => none

def isWordChar (c : Char) : Bool := c.isAlphanum || c == '_' || c == '+' || c == '-' || c == '.'

/-- A word that is no date or time. -/
def word? (cs : List Char) : Option Datum :=
  if cs = "true".toList then some (.bool true)
  else if cs = "false".toList then some (.bool false)
  else integer? cs <|> float? cs

/-- **A value without parts.** -/
def scalar : Scan Datum :=
  (do return .text (← string)) <|> dated <|> do
    match word? (← Scan.takeWhile1 isWordChar) with
    | some d => return d
    | none => failure

/-! ## Keys -/

def isBareChar (c : Char) : Bool := c.isAlphanum || c == '_' || c == '-'

def simpleKey : Scan String :=
  oneLine <|> do return String.ofList (← Scan.takeWhile1 isBareChar)

/-- **A key,** which leads through tables when it has several parts. -/
def key : Scan (List String) := do
  blanks
  let parts ← Scan.separated (do let k ← simpleKey; blanks; return k) do
    Scan.char '.'
    blanks
  return parts

end Discern.Toml
