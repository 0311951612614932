import Discern.Document.Datum
import Discern.Text.Hex
import Discern.Text.Scan

/-!
# JSON

`Json.parse?` reads one JSON value with blanks around it, and refuses texts with
more than 127 containers inside each other.  Integers keep their value; a number
with a fraction or an exponent, and `-0`, is a real.  Escaped surrogates have to
form pairs.

`Json.compact` and `Json.pretty` write a value, the second with one entry on a
line and two spaces of indentation for each level.
-/

namespace Discern.Json

open Text

/-! ## Reading -/

private def isSpace (c : Char) : Bool := c == ' ' || c == '\t' || c == '\n' || c == '\r'

private def spaces : Scan Unit := Scan.skipWhile isSpace

/-- A character and the blanks after it. -/
private def mark (c : Char) : Scan Unit := do
  Scan.char c
  spaces

/-- The character that an escape writes; the backslash has been read. -/
private def escape : Scan Char := do
  match ← Scan.any with
  | '"' => return '"'
  | '\\' => return '\\'
  | '/' => return '/'
  | 'b' => return '\x08'
  | 'f' => return '\x0c'
  | 'n' => return '\n'
  | 'r' => return '\r'
  | 't' => return '\t'
  | 'u' => do
    let high ← Scan.hexNumber 4
    if 0xD800 ≤ high ∧ high < 0xDC00 then
      Scan.literal ['\\', 'u']
      let low ← Scan.hexNumber 4
      if 0xDC00 ≤ low ∧ low < 0xE000 then
        return Char.ofNat (0x10000 + (high - 0xD800) * 0x400 + (low - 0xDC00))
      else failure
    else if 0xDC00 ≤ high ∧ high < 0xE000 then failure
    else return Char.ofNat high
  | _ => failure

/-- A character inside quotes. -/
private def stringChar : Scan Char := do
  let c ← Scan.satisfy fun c => c != '"' && 0x20 ≤ c.toNat
  if c == '\\' then escape else return c

/-- A string whose opening quote has been read. -/
private def stringBody : Scan String := do
  let cs ← Scan.many stringChar
  Scan.char '"'
  return String.ofList cs

private def isDigit (c : Char) : Bool := '0' ≤ c && c ≤ '9'

private def natOf (digits : List Char) : Nat := digits.foldl (fun n c => 10 * n + (c.toNat - 48)) 0

/-- Whether a number lies beyond the greatest double-precision number. -/
def isTooLarge (significand : Nat) (exponent : Int) : Bool :=
  let bound : Nat := Nat.pow 2 1024 - Nat.pow 2 970
  if significand = 0 then false
  else if exponent < 0 then
    -- more places than binary digits leave nothing of the significand
    bound ≤ significand / Nat.pow 10 (Nat.min (-exponent).toNat (significand.log2 + 1))
  else if exponent > 400 then true
  else bound ≤ significand * Nat.pow 10 exponent.toNat

/-- The digits of a number, after its sign. -/
private def unsigned (negative : Bool) : Scan Datum := do
  let whole ← do
    let digits ← Scan.takeWhile1 isDigit
    if digits.length > 1 && digits.head? == some '0' then failure else pure digits
  let fraction ← Scan.optional? do
    Scan.char '.'
    Scan.takeWhile1 isDigit
  let exponent ← Scan.optional? do
    let _ ← Scan.satisfy fun c => c == 'e' || c == 'E'
    let sign ← Scan.optional? (Scan.satisfy fun c => c == '+' || c == '-')
    let digits ← Scan.takeWhile1 isDigit
    return if sign == some '-' then - Int.ofNat (natOf digits) else Int.ofNat (natOf digits)
  let places := fraction.getD []
  let significand := natOf (whole ++ places)
  let scale := exponent.getD 0 - places.length
  if fraction.isNone && exponent.isNone && !(negative && significand == 0) then
    if isTooLarge significand 0 then failure
    else return .integer (if negative then - Int.ofNat significand else significand)
  else if isTooLarge significand scale then failure
  else return .real (if negative then - Int.ofNat significand else significand) scale

/-- A value without parts. -/
private def scalar : Scan Datum := do
  match ← Scan.peek with
  | some 'n' => Scan.literal ['n', 'u', 'l', 'l']; return .null
  | some 't' => Scan.literal ['t', 'r', 'u', 'e']; return .bool true
  | some 'f' => Scan.literal ['f', 'a', 'l', 's', 'e']; return .bool false
  | some '"' => Scan.char '"'; return .text (← stringBody)
  | some '-' => Scan.char '-'; unsigned true
  | _ => unsigned false

/-- Items between brackets, with blanks and commas between them. -/
private def bracketed {α : Type} (openMark closeMark : Char) (item : Scan α) : Scan (List α) := do
  mark openMark
  let items ← Scan.optional? (Scan.separated (do let a ← item; spaces; return a) (mark ','))
  Scan.char closeMark
  return items.getD []

/-- A value with at most `depth` containers inside each other. -/
private def value : (depth : Nat) → Scan Datum
  | 0 => scalar
  | depth + 1 => do
    match ← Scan.peek with
    | some '[' => return .seq (← bracketed '[' ']' (value depth))
    | some '\x7b' =>
      let entries ← bracketed '\x7b' '\x7d' do
        Scan.char '"'
        let key ← stringBody
        spaces
        mark ':'
        return (key, ← value depth)
      return .map entries
    | _ => scalar

/-- **Read a JSON text.** -/
def parse? (text : String) : Option Datum :=
  (do spaces; let d ← value 127; spaces; return d : Scan Datum).all? text.toList

/-! ## Writing -/

/-- A character inside quotes. -/
def escaped (c : Char) : List Char :=
  if c = '"' then ['\\', '"']
  else if c = '\\' then ['\\', '\\']
  else if c = '\n' then ['\\', 'n']
  else if c = '\r' then ['\\', 'r']
  else if c = '\t' then ['\\', 't']
  else if c = '\x08' then ['\\', 'b']
  else if c = '\x0c' then ['\\', 'f']
  else if c.toNat < 0x20 then ['\\', 'u', '0', '0'] ++ Hex.lower c.toNat.toUInt8
  else [c]

/-- A string between quotes. -/
def quote (s : String) : String :=
  String.ofList ('"' :: s.toList.flatMap escaped ++ ['"'])

mutual

/-- **Write a value** without blanks. -/
def compact : Datum → String
  | .null => "null"
  | .bool b => if b then "true" else "false"
  | .integer n => toString n
  | .real significand exponent => s!"{significand}e{exponent}"
  | .text s => quote s
  | .plain s => quote s
  | .special s => quote s
  | .seq items => "[" ++ ",".intercalate (compactItems items) ++ "]"
  | .map entries => "\x7b" ++ ",".intercalate (compactEntries entries) ++ "\x7d"

def compactItems : List Datum → List String
  | [] => []
  | d :: rest => compact d :: compactItems rest

def compactEntries : List (String × Datum) → List String
  | [] => []
  | (key, d) :: rest => (quote key ++ ":" ++ compact d) :: compactEntries rest

end

/-- Lines between two brackets, each with the indentation of the next level. -/
private def block (level : Nat) (openMark closeMark : String) (lines : List String) : String :=
  if lines.isEmpty then openMark ++ closeMark
  else
    let pad n := "".pushn ' ' (2 * n)
    openMark ++ "\n" ++ ",\n".intercalate (lines.map (pad (level + 1) ++ ·)) ++ "\n" ++ pad level
      ++ closeMark

mutual

/-- **Write a value** on several lines, inside `level` containers. -/
def prettyAt (level : Nat) : Datum → String
  | .seq items => block level "[" "]" (prettyItems (level + 1) items)
  | .map entries => block level "\x7b" "\x7d" (prettyEntries (level + 1) entries)
  | d => compact d

def prettyItems (level : Nat) : List Datum → List String
  | [] => []
  | d :: rest => prettyAt level d :: prettyItems level rest

def prettyEntries (level : Nat) : List (String × Datum) → List String
  | [] => []
  | (key, d) :: rest => (quote key ++ ": " ++ prettyAt level d) :: prettyEntries level rest

end

/-- Write a value on several lines. -/
def pretty (d : Datum) : String := prettyAt 0 d

end Discern.Json
