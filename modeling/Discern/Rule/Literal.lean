import Discern.Bytes
import Discern.Text.Hex

/-!
# Literal texts

The text of a literal stands for bytes: each character for its UTF-8 bytes, and an
escape for one byte.  The escapes are `\n`, `\r`, `\t`, `\\` and `\x` with two
digits.  Reading works on the bytes of the text; the digits of `\x` are read as a
number of base 16, which may carry a `+` in place of its first digit.
-/

namespace Discern

/-- **What can be wrong with the text of a literal.** -/
inductive LiteralFlaw where
  | badDigits
  | unknownEscape (byte : UInt8)
  | danglingBackslash
  | empty
deriving DecidableEq, Inhabited

/-- The byte after a backslash is shown as the character with its number. -/
def LiteralFlaw.message : LiteralFlaw → String
  | badDigits => "\\x needs two hex digits"
  | unknownEscape byte => "unknown escape \\" ++ String.singleton (Char.ofNat byte.toNat)
  | danglingBackslash => "dangling backslash"
  | empty => "empty literal"

namespace Literal

/-- What the two bytes after `\x` write. -/
def digits? (high low : UInt8) : Option UInt8 :=
  if high = 43 then Text.Hex.value? (Char.ofNat low.toNat)
  else Text.Hex.pair? (Char.ofNat high.toNat) (Char.ofNat low.toNat)

/-- The bytes that the bytes of a text stand for, after those in `done`, which
come last first. -/
def scan (done : Bytes) : Bytes → Except LiteralFlaw Bytes
  | [] => .ok done.reverse
  | 92 :: 110 :: rest => scan (10 :: done) rest
  | 92 :: 114 :: rest => scan (13 :: done) rest
  | 92 :: 116 :: rest => scan (9 :: done) rest
  | 92 :: 92 :: rest => scan (92 :: done) rest
  | 92 :: 120 :: high :: low :: rest =>
    match digits? high low with
    | some byte => scan (byte :: done) rest
    | none => .error .badDigits
  | 92 :: 120 :: _ => .error .badDigits
  | 92 :: other :: _ => .error (.unknownEscape other)
  | [92] => .error .danglingBackslash
  | byte :: rest => scan (byte :: done) rest

/-- **The bytes of a literal,** at least one. -/
def read (text : String) : Except LiteralFlaw Bytes := do
  let bytes ← scan [] (Utf8.ofString text)
  if bytes.isEmpty then throw .empty else return bytes

end Literal

end Discern
