import Discern.Format.TagSet
import Discern.Rule
import Discern.Rule.Literal
import Discern.Text.Lines
import Discern.Text.Blank

/-!
# Rule tables

A table lists rules, each for a tag, and is written one rule a line as
`tag=mode:parameters`.  Blank lines and lines that begin with `#` say nothing.
The modes are `string` with a literal, `regexp` with a pattern, and `class` with
the name of a built-in rule.  Blanks around the tag, the mode and the name of a
built-in rule do not count; those in a literal or a pattern do, also at the end of
the line.

What makes a rule of a pattern is a parameter; `read` takes the patterns of
`Regex`.
-/

namespace Discern

/-- **What can be wrong with a line of a table.** -/
inductive LineFlaw where
  | noEquals
  | noTag
  | noColon
  | literal (flaw : LiteralFlaw)
  | pattern (message : String)
  | unknownRule (name : String)
  | unknownMode (mode : String)
deriving DecidableEq, Inhabited

/-- **A flaw on a line of a table,** which are counted from one. -/
structure TableError where
  line : Nat
  flaw : LineFlaw
deriving DecidableEq, Inhabited

def TableError.message (error : TableError) : String :=
  let malformed (message : String) :=
    s!"Malformed module definition on line {error.line}: {message}"
  match error.flaw with
  | .noEquals => malformed "expected tag=mode:params"
  | .noTag => malformed "missing format tag"
  | .noColon => malformed "expected mode:params after '='"
  | .literal flaw => malformed flaw.message
  | .pattern message => s!"Invalid regular expression on line {error.line}: {message}"
  | .unknownRule name => s!"Unknown plugin module '{name}' on line {error.line}"
  | .unknownMode mode => s!"Unsupported matching strategy '{mode}' on line {error.line}"

/-- The name of a flaw, by which flaws are told apart. -/
def LineFlaw.name : LineFlaw → String
  | noEquals => "MalformedModuleLine"
  | noTag => "MalformedModuleLine"
  | noColon => "MalformedModuleLine"
  | literal _ => "MalformedModuleLine"
  | pattern _ => "InvalidRegex"
  | unknownRule _ => "UnknownModule"
  | unknownMode _ => "UnsupportedStrategy"

/-- **A rule for a tag.** -/
structure TableEntry where
  tag : FormatTag
  rule : Rule
deriving Inhabited

/-- **What makes a rule of a pattern,** or says what is wrong with it. -/
abbrev PatternReader := String → Except String Rule

/-- Patterns are regular expressions. -/
def Regex.reader : PatternReader := fun text =>
  match Regex.parse? text with
  | some regex => .ok (.pattern regex)
  | none => .error "regex parse error"

/-- **An ordered table of rules.** -/
structure RuleTable where
  entries : List TableEntry
deriving Inhabited

namespace RuleTable

open Text

/-- The built-in rule with a name, in any case. -/
def builtInRule? (name : List Char) : Option Rule :=
  match String.ofList (name.map Char.toLower) with
  | "base64" => some .base64
  | "gzip" => some .gzip
  | "zip" => some .zip
  | _ => none

/-- The rule that a mode makes of its parameters. -/
def readRule (patterns : PatternReader) (mode params : List Char) : Except LineFlaw Rule :=
  match String.ofList (mode.map Char.toLower) with
  | "string" => ((Literal.read (String.ofList params)).map Rule.literal).mapError .literal
  | "regexp" => (patterns (String.ofList params)).mapError .pattern
  | "class" =>
    match builtInRule? (trim params) with
    | some rule => .ok rule
    | none => .error (.unknownRule (String.ofList (trim params)))
  | _ => .error (.unknownMode (String.ofList mode))

/-- **Read a line** that is neither blank nor a comment. -/
def readLine (patterns : PatternReader) (line : List Char) : Except LineFlaw TableEntry :=
  match splitAtFirst? '=' line with
  | none => .error .noEquals
  | some (tag, rest) =>
    if (trim tag).isEmpty then .error .noTag
    else
      match splitAtFirst? ':' rest with
      | none => .error .noColon
      | some (mode, params) => do
        return ⟨.ofString (String.ofList tag), ← readRule patterns (trim mode) params⟩

/-- Whether a line is blank or a comment. -/
def isSilent (line : List Char) : Bool :=
  match trimStart line with
  | [] => true
  | c :: _ => c == '#'

/-- The entries of the lines from number `line` on. -/
def readLines (patterns : PatternReader) (line : Nat) :
    List (List Char) → Except TableError (List TableEntry)
  | [] => .ok []
  | first :: rest =>
    if isSilent first then readLines patterns (line + 1) rest
    else do
      let entry ← (readLine patterns (trimStart first)).mapError (TableError.mk line)
      return entry :: (← readLines patterns (line + 1) rest)

/-- **Read a table,** up to its first bad line. -/
def readWith (patterns : PatternReader) (text : String) : Except TableError RuleTable :=
  (readLines patterns 1 (lines text.toList)).map RuleTable.mk

/-- Read a table whose patterns are regular expressions. -/
def read (text : String) : Except TableError RuleTable := readWith Regex.reader text

/-- The text of the built-in table. -/
def builtInText : String := "\n".intercalate [
  "gzip=class:gzip",
  "zip=class:zip",
  "pdf=string:%PDF-",
  "png=string:\\x89PNG\\r\\n\\x1a\\n",
  "xml=regexp:^\\s*<\\?xml\\s",
  "base64=class:base64"]

/-- **The built-in table.** -/
def builtIn : Except TableError RuleTable := read builtInText

/-- Add a rule after the others. -/
def push (table : RuleTable) (tag : FormatTag) (rule : Rule) : RuleTable :=
  ⟨table.entries ++ [⟨tag, rule⟩]⟩

/-- The tags in the order of the table, repeated ones included. -/
def tags (table : RuleTable) : List FormatTag := table.entries.map TableEntry.tag

def declared (table : RuleTable) : TagSet := .ofList table.tags

/-- The entries that ask for one of some tags. -/
def enabled (table : RuleTable) (tags : TagSet) : List TableEntry :=
  table.entries.filter fun entry => tags.contains entry.tag

/-- How many leading bytes the widest of some entries wants to see. -/
def windowOf (entries : List TableEntry) : Nat :=
  entries.foldl (fun n entry => Nat.max n entry.rule.window) 0

/-- **The first entry whose rule holds** for a content that begins with `lead`. -/
def firstMatch? (entries : List TableEntry) (lead : Bytes) : Option TableEntry :=
  entries.find? (·.rule.holdsFor lead)

end RuleTable

end Discern
