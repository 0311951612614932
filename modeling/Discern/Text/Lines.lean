/-!
# Lines of a text

A line ends with a line feed, with one carriage return before it that is no part
of the line.  The last line may lack its line feed, and then a carriage return at
its end belongs to it.
-/

namespace Discern.Text

/-- Drop one carriage return at the end. -/
def dropReturn (cs : List Char) : List Char :=
  if cs.getLast? = some '\r' then cs.dropLast else cs

/-- **The lines of a text.** -/
def lines (cs : List Char) : List (List Char) :=
  go [] cs
where
  /-- `start` holds the characters of the open line, last first. -/
  go (start : List Char) : List Char → List (List Char)
    | [] => if start.isEmpty then [] else [start.reverse]
    | '\n' :: rest => dropReturn start.reverse :: go [] rest
    | c :: rest => go (c :: start) rest

/-- What stands before and after the first occurrence of a character. -/
def splitAtFirst? (c : Char) (cs : List Char) : Option (List Char × List Char) :=
  match cs.dropWhile (· != c) with
  | [] => none
  | _ :: rest => some (cs.takeWhile (· != c), rest)

end Discern.Text
