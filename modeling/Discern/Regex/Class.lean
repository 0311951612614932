import Discern.Regex.Basic
import Discern.Text.Blank
import Discern.Unicode.Category
import Discern.Unicode.Folding

/-!
# Named classes

The sets of code points that patterns name: the short classes such as `\d`, the
ASCII classes such as `[:alpha:]`, and Unicode properties such as `\p{Lu}`.
-/

namespace Discern.CodeSet

/-- The set without members. -/
def none : CodeSet := fun _ => false

def single (code : Nat) : CodeSet := (· == code)

/-- All codes between two, both included. -/
def range (first last : Nat) : CodeSet := fun n => first ≤ n && n ≤ last

def union (a b : CodeSet) : CodeSet := fun n => a n || b n

def complement (a : CodeSet) : CodeSet := fun n => !a n

def ofRanges (ranges : Unicode.Ranges) : CodeSet := ranges.contains

/-- The other case of an ASCII letter. -/
def otherCase (n : Nat) : Nat :=
  if 65 ≤ n ∧ n ≤ 90 then n + 32 else if 97 ≤ n ∧ n ≤ 122 then n - 32 else n

/-- All case variants of the members. -/
def foldCase (unicode : Bool) (a : CodeSet) : CodeSet :=
  if unicode then fun n => (Unicode.variants n).any a
  else fun n => a n || a (otherCase n)

/-! ## Short classes -/

/-- The class of `\d`. -/
def digit (unicode : Bool) : CodeSet :=
  if unicode then ofRanges Unicode.Category.decimalNumber else range 48 57

/-- The class of `\s`. -/
def space (unicode : Bool) : CodeSet :=
  if unicode then fun n => Text.isBlank (Char.ofNat n)
  else fun n => n == 32 || (9 ≤ n && n ≤ 13)

/-- The class of `\w`. -/
def word (unicode : Bool) : CodeSet :=
  if unicode then Unicode.isWord else Look.isAsciiWord

/-! ## ASCII classes -/

/-- The class that a name between `[:` and `:]` stands for. -/
def ascii? : String → Option CodeSet
  | "alnum" => some (union (range 48 57) letters)
  | "alpha" => some letters
  | "ascii" => some (range 0 127)
  | "blank" => some (union (single 9) (single 32))
  | "cntrl" => some (union (range 0 31) (single 127))
  | "digit" => some (range 48 57)
  | "graph" => some (range 33 126)
  | "lower" => some (range 97 122)
  | "print" => some (range 32 126)
  | "punct" => some (union (range 33 47) (union (range 58 64) (union (range 91 96) (range 123 126))))
  | "space" => some (space false)
  | "upper" => some (range 65 90)
  | "word" => some (word false)
  | "xdigit" => some (union (range 48 57) (union (range 65 70) (range 97 102)))
  | _ => Option.none
where
  letters := union (range 65 90) (range 97 122)

/-! ## Unicode properties -/

open Unicode.Category

/-- The general categories by their short and long names, in small letters. -/
private def categories : List (String × String × List Unicode.Ranges) := [
  ("lu", "uppercaseletter", [uppercaseLetter]), ("ll", "lowercaseletter", [lowercaseLetter]),
  ("lt", "titlecaseletter", [titlecaseLetter]), ("lm", "modifierletter", [modifierLetter]),
  ("lo", "otherletter", [otherLetter]),
  ("lc", "casedletter", [uppercaseLetter, lowercaseLetter, titlecaseLetter]),
  ("l", "letter",
    [uppercaseLetter, lowercaseLetter, titlecaseLetter, modifierLetter, otherLetter]),
  ("mn", "nonspacingmark", [nonspacingMark]), ("mc", "spacingmark", [spacingMark]),
  ("me", "enclosingmark", [enclosingMark]),
  ("m", "mark", [nonspacingMark, spacingMark, enclosingMark]),
  ("m", "combiningmark", [nonspacingMark, spacingMark, enclosingMark]),
  ("nd", "decimalnumber", [decimalNumber]), ("nd", "digit", [decimalNumber]),
  ("nl", "letternumber", [letterNumber]), ("no", "othernumber", [otherNumber]),
  ("n", "number", [decimalNumber, letterNumber, otherNumber]),
  ("pc", "connectorpunctuation", [connectorPunctuation]),
  ("pd", "dashpunctuation", [dashPunctuation]), ("ps", "openpunctuation", [openPunctuation]),
  ("pe", "closepunctuation", [closePunctuation]),
  ("pi", "initialpunctuation", [initialPunctuation]),
  ("pf", "finalpunctuation", [finalPunctuation]), ("po", "otherpunctuation", [otherPunctuation]),
  ("p", "punctuation", [connectorPunctuation, dashPunctuation, openPunctuation, closePunctuation,
    initialPunctuation, finalPunctuation, otherPunctuation]),
  ("p", "punct", [connectorPunctuation, dashPunctuation, openPunctuation, closePunctuation,
    initialPunctuation, finalPunctuation, otherPunctuation]),
  ("sm", "mathsymbol", [mathSymbol]), ("sc", "currencysymbol", [currencySymbol]),
  ("sk", "modifiersymbol", [modifierSymbol]), ("so", "othersymbol", [otherSymbol]),
  ("s", "symbol", [mathSymbol, currencySymbol, modifierSymbol, otherSymbol]),
  ("zs", "spaceseparator", [spaceSeparator]), ("zl", "lineseparator", [lineSeparator]),
  ("zp", "paragraphseparator", [paragraphSeparator]),
  ("z", "separator", [spaceSeparator, lineSeparator, paragraphSeparator]),
  ("cc", "control", [control]), ("cc", "cntrl", [control]), ("cf", "format", [format]),
  ("co", "privateuse", [privateUse])]

/-- The code points with a character. -/
private def isAssigned (n : Nat) : Bool :=
  categories.any fun (_, _, tables) => tables.any (·.contains n)

/-- The class that a general category names. -/
private def category? (name : String) : Option CodeSet :=
  match categories.find? fun (short, long, _) => short == name || long == name with
  | some (_, _, tables) => some fun n => tables.any (·.contains n)
  | Option.none =>
    match name with
    | "any" => some fun _ => true
    | "ascii" => some (range 0 127)
    | "assigned" => some isAssigned
    | "cn" | "unassigned" => some (complement isAssigned)
    | "c" | "other" => some fun n =>
        !isAssigned n || control.contains n || format.contains n || privateUse.contains n
    | _ => Option.none

/-- The name of a property in small letters, without spaces, dashes and low lines. -/
private def looseName (cs : List Char) : String :=
  String.ofList ((cs.filter fun c => c != ' ' && c != '-' && c != '_').map Char.toLower)

/-- Binary properties other than categories. -/
private def binary? : String → Option CodeSet
  | "alphabetic" | "alpha" => some fun n => Unicode.isWord n &&
      !(decimalNumber.contains n || connectorPunctuation.contains n)
  | "lowercase" | "lower" => some (ofRanges lowercaseLetter)
  | "uppercase" | "upper" => some (ofRanges uppercaseLetter)
  | "whitespace" | "wspace" | "space" => some (space true)
  | _ => Option.none

/-- **The class that the name of a Unicode property stands for.** -/
def property? (name : List Char) : Option CodeSet :=
  let name := looseName name
  (category? name).orElse fun _ => binary? name

/-- The class of the code points whose property has a value. -/
def propertyValue? (name value : List Char) : Option CodeSet :=
  if ["gc", "generalcategory"].contains (looseName name) then category? (looseName value)
  else Option.none

end Discern.CodeSet
