import Discern.Document.Toml.Scalar
import Discern.Document.Toml.Table

/-!
# TOML

A TOML document gives values to keys, one on a line, under headers that name tables.
`Toml.parse?` reads a document as one map.
-/

namespace Discern.Toml

open Text

/-! ## Values with parts -/

def comment : Scan Unit := do
  Scan.char '#'
  Scan.skipWhile isPlain

/-- Blanks, line ends and comments. -/
def space : Scan Unit := do
  let _ ← Scan.many ((do let _ ← Scan.takeWhile1 isBlank) <|> newline <|> do comment; newline)

/-- Values between brackets; a comma may follow the last one. -/
def array (value : Scan Datum) : Scan Datum := do
  Scan.char '['
  space
  let items ← Scan.optional? do
    let item : Scan Datum := do
      let d ← value
      space
      return d
    let items ← Scan.separated item do
      Scan.char ','
      space
    let _ ← Scan.optional? do
      Scan.char ','
      space
    return items
  Scan.char ']'
  return .seq (items.getD [])

/-- A key and its value. -/
def assignment (value : Scan Datum) : Scan (List String × Datum) := do
  let key ← key
  Scan.char '='
  blanks
  return (key, ← value)

/-- Give a value to a key in a table. -/
def assignKey (table : Table) (key : List String) (value : Datum) : Option Table := do
  table.assign key.dropLast (← key.getLast?) value

/-- A table on one line, between braces. -/
def inlineTable (value : Scan Datum) : Scan Datum := do
  Scan.char '\x7b'
  blanks
  let entries ← Scan.optional? <| Scan.separated
    (do let entry ← assignment value; blanks; return entry) do
      Scan.char ','
      blanks
  Scan.char '\x7d'
  match (entries.getD []).foldlM (fun t (k, d) => assignKey t k d) (⟨.declared, []⟩ : Table) with
  | some table => return table.toDatum
  | none => failure

/-- A value with at most `depth` containers inside each other. -/
def value : (depth : Nat) → Scan Datum
  | 0 => scalar
  | depth + 1 => do
    match ← Scan.peek with
    | some '[' => array (value depth)
    | some '\x7b' => inlineTable (value depth)
    | _ => scalar

/-! ## Documents -/

/-- **A line of a document.** -/
inductive Statement where
  | blank
  | header (key : List String)
  | item (key : List String)
  | assign (key : List String) (value : Datum)

/-- A key between brackets. -/
def bracketed (opening closing : List Char) : Scan (List String) := do
  Scan.literal opening
  let key ← key
  Scan.literal closing
  return key

def statement : Scan Statement := do
  blanks
  match ← Scan.peek with
  | some '[' =>
    (do return .item (← bracketed ['[', '['] [']', ']'])) <|>
      (do return .header (← bracketed ['['] [']']))
  | none | some '#' | some '\n' | some '\r' => return .blank
  | _ => do
    let (key, value) ← assignment (value 80)
    return .assign key value

/-- A statement with its line end. -/
def line : Scan Statement := do
  let s ← statement
  blanks
  let _ ← Scan.optional? comment
  newline <|> Scan.done
  return s

/-- A document in the making: everything so far, and the path of the open table. -/
structure Draft where
  root : Table
  current : List String

/-- Carry out a statement. -/
def Draft.add (draft : Draft) : Statement → Option Draft
  | .blank => some draft
  | .header key => do
    let root ← draft.root.declare key.dropLast (← key.getLast?)
    return { root, current := key }
  | .item key => do
    let root ← draft.root.append key.dropLast (← key.getLast?)
    return { root, current := key }
  | .assign key value => do
    let root ← Table.alterAt false (assignKey · key value) draft.current draft.root
    return { draft with root }

/-- **Read a TOML document.** -/
def parse? (text : String) : Option Datum := do
  let cs := match text.toList with
    | '\ufeff' :: rest => rest
    | cs => cs
  let statements ← (Scan.many line).all? cs
  let draft ← statements.foldlM Draft.add { root := ⟨.declared, []⟩, current := [] }
  return draft.root.toDatum

end Discern.Toml
