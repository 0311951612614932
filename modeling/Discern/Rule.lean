import Discern.Base64
import Discern.Regex.Parser

/-!
# Detection rules

A rule decides from the first bytes of a content whether it has a format.  Its
`window` is the number of bytes it wants to see; a shorter content is seen whole.
-/

namespace Discern

/-- **A rule over the first bytes of a content.** -/
inductive Rule where
  /-- The content begins with these bytes. -/
  | literal (bytes : Bytes)
  /-- A pattern is found in the first kibibyte. -/
  | pattern (regex : Regex)
  /-- The content looks like base64 text. -/
  | base64
  /-- The content begins like a gzip member. -/
  | gzip
  /-- The content begins with a mark of a zip archive. -/
  | zip
  /-- A rule given from outside decides on as many bytes as it wants to see. -/
  | foreign (window : Nat) (verdict : Bytes → Bool)
deriving Inhabited

namespace Rule

/-- The bytes that a base64 text is judged by. -/
def base64Window : Nat := 256

/-- The fewest symbols that make a base64 text. -/
def leastSymbols : Nat := 16

/-- The bytes that a pattern is searched in. -/
def patternWindow : Nat := 1024

/-- The first bytes of a gzip member with the one compression method there is. -/
def gzipMark : Bytes := [0x1f, 0x8b, 0x08]

/-- A local file header, the end of an empty archive, and the mark of a spanned
archive. -/
def zipMarks : List Bytes :=
  [[0x50, 0x4b, 0x03, 0x04], [0x50, 0x4b, 0x05, 0x06], [0x50, 0x4b, 0x07, 0x08]]

/-- **How many leading bytes a rule wants to see.** -/
def window : Rule → Nat
  | literal bytes => bytes.length
  | pattern _ => patternWindow
  | base64 => base64Window
  | gzip => gzipMark.length
  | zip => 4
  | foreign window _ => window

/-- The bytes that are no line ends. -/
def dropLineEnds (lead : Bytes) : Bytes := lead.filter fun b => b != 13 && b != 10

/-- **Whether leading bytes look like base64 text:** symbols, padding and line ends
only, enough symbols, and complete quads that decode.  What is shorter than the
window has been seen whole and is made of complete quads. -/
def looksBase64 (lead : Bytes) : Bool :=
  let symbols := dropLineEnds lead
  let whole := lead.length < base64Window
  symbols.all (fun b => (Base64.value? b).isSome || b == Base64.pad) &&
    leastSymbols ≤ symbols.length &&
    !(whole && symbols.length % 4 != 0) &&
    (Base64.decode? (symbols.take (symbols.length - symbols.length % 4))).isSome

/-- **Whether a rule holds for leading bytes,** at most `window` of them. -/
def accepts (lead : Bytes) : Rule → Bool
  | literal bytes => bytes.isPrefixOf lead
  | pattern regex => regex.isFoundIn lead
  | base64 => looksBase64 lead
  | gzip => gzipMark.isPrefixOf lead
  | zip => zipMarks.any (·.isPrefixOf lead)
  | foreign _ verdict => verdict lead

/-- Whether a rule holds for a content of which it sees its window. -/
def holdsFor (rule : Rule) (content : Bytes) : Bool := rule.accepts (content.take rule.window)

end Rule

end Discern
