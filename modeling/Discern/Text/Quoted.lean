import Discern.Unicode.Category

/-!
# Quoted text

A text between quotes, in which a reader can tell every character: quotes, backslashes,
controls, blanks other than the space, marks that join the character before them and code
points without a character are written as escapes.
-/

namespace Discern.Text.Quoted

open Unicode

/-- The categories of characters that can be seen. -/
def visible : List Ranges := [
  Category.uppercaseLetter, Category.lowercaseLetter, Category.titlecaseLetter,
  Category.modifierLetter, Category.otherLetter, Category.spacingMark, Category.decimalNumber,
  Category.letterNumber, Category.otherNumber, Category.connectorPunctuation,
  Category.dashPunctuation, Category.openPunctuation, Category.closePunctuation,
  Category.initialPunctuation, Category.finalPunctuation, Category.otherPunctuation,
  Category.mathSymbol, Category.currencySymbol, Category.modifierSymbol, Category.otherSymbol]

/-- Visible characters that join the character before them. -/
def joining : Ranges := .ofText <|
    "9be 9d7 b3e b57 bbe bd7 cc0 cc2 cc7-cc8 cca-ccb cd5-cd6 d3e d57 dcf ddf 1715 1734 " ++
    "1b35 1b3b 1b3d 1b43-1b44 1baa 1bf2-1bf3 302e-302f a953 a9c0 ff9e-ff9f 111c0 11235 " ++
    "1133e 1134d 11357 113b8 113c2 113c5 113cf 114b0 114bd 115af 116b6 11930 1193d 11f41 " ++
    "16ff0-16ff1 1d165-1d166 1d16d-1d172"

/-- Whether a character stands for itself. -/
def isPlain (c : Char) : Bool :=
  if c.toNat < 0x7F then 0x20 ≤ c.toNat
  else visible.any (·.contains c.toNat) && !joining.contains c.toNat

/-- A character between quotes. -/
def escape (c : Char) : List Char :=
  if c = '"' then ['\\', '"']
  else if c = '\\' then ['\\', '\\']
  else if c = '\n' then ['\\', 'n']
  else if c = '\r' then ['\\', 'r']
  else if c = '\t' then ['\\', 't']
  else if c.toNat = 0 then ['\\', '0']
  else if isPlain c then [c]
  else ['\\', 'u', '\x7b'] ++ Nat.toDigits 16 c.toNat ++ ['\x7d']

/-- **A text between quotes.** -/
def quote (s : String) : String := String.ofList ('"' :: s.toList.flatMap escape ++ ['"'])

end Discern.Text.Quoted
