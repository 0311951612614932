import Discern.Files.Tree
import Discern.Glob
import Discern.Text.Blank
import Discern.Text.Lines

/-!
# Ignore files

A file `.ignore` says what walkers leave out in its directory and below; so do a file `.gitignore`
inside a repository, which is a directory with an entry `.git`, and the list of exclusions that the
repository keeps in that entry.

Each line has a glob.  With a `/` before its end, it is a glob for the names that lead to a place
from the directory of the file, and `**` stands for any number of names there; without one, it is a
glob for the last name, wherever it is below.  With a `/` at its end a line speaks of directories
only, and with a `!` at its beginning it lets in again what lines before it leave out.  A backslash
takes the meaning of the character behind it.  Blank lines and lines that begin with `#` say
nothing, and neither do lines that have no glob.

The last line of a file that speaks of a place decides.  Files below decide before those above
them, and files `.ignore` before those of a repository.
-/

namespace Discern

/-- **A part of a line:** a glob for one name, or any number of names. -/
inductive IgnorePart where
  | name (glob : Glob)
  | anyNames
deriving DecidableEq, Inhabited

/-- **A line of an ignore file,** for the names that lead to a place from its directory. -/
structure IgnoreLine where
  parts : List IgnorePart
  directoriesOnly : Bool
  letsIn : Bool
deriving DecidableEq, Inhabited

namespace IgnorePart

/-- Read a glob for one name. -/
def tokens? (cs : List Char) : Option (List GlobToken) :=
  match cs with
  | [] => some []
  | ['\\'] => none
  | '\\' :: c :: rest => (.char c :: ·) <$> tokens? rest
  | '?' :: rest => (.anyChar :: ·) <$> tokens? rest
  | '*' :: rest => (.anyText :: ·) <$> tokens? rest
  | '[' :: rest =>
    match _h : Glob.bracket? rest with
    | some (token, after) => (token :: ·) <$> tokens? after
    | none => none
  | c :: rest => (.char c :: ·) <$> tokens? rest
termination_by cs.length
decreasing_by
  all_goals simp only [List.length_cons]
  any_goals omega
  have := Glob.length_bracket? _h
  omega

/-- Read a part. -/
def read? (text : String) : Option IgnorePart :=
  if text == "**" then some .anyNames
  else (tokens? text.toList).map fun tokens => .name ⟨tokens⟩

/-- **Whether parts match names,** all of them. -/
def matchNames : List IgnorePart → List String → Bool
  | [], names => names.isEmpty
  | .name glob :: rest, first :: others => glob.accepts first && matchNames rest others
  | .name _ :: _, [] => false
  | .anyNames :: rest, names =>
    (List.range (names.length + 1)).any fun n => matchNames rest (names.drop n)

end IgnorePart

namespace IgnoreLine

open Text

/-- Drop the blanks at the end of a line, unless a backslash keeps a space there. -/
def dropBlanks (line : List Char) : List Char :=
  if ['\\', ' '].isSuffixOf line then line else trimEnd line

/-- The parts of a glob without the `/` at its end.  Names that `**` stands for at the end lead
into a directory, so there is one of them at least. -/
def parts? (glob : List Char) : Option (List IgnorePart) := do
  let pieces := (String.ofList glob).splitOn "/"
  let parts ← (if pieces.length == 1 then "**" :: pieces
    else if pieces.head? == some "" then pieces.drop 1 else pieces).mapM IgnorePart.read?
  return if parts.getLast? == some .anyNames then parts ++ [.name ⟨[.anyText]⟩] else parts

/-- **Read a line.** -/
def read? (line : List Char) : Option IgnoreLine := do
  let text := dropBlanks line
  guard (!text.isEmpty && text.head? != some '#')
  let letsIn := text.head? == some '!'
  let glob := if letsIn then text.drop 1 else text
  let directoriesOnly := glob.getLast? == some '/'
  return {
    parts := ← parts? (if directoriesOnly then glob.dropLast else glob)
    directoriesOnly, letsIn }

/-- Whether a line speaks of the place that names lead to. -/
def speaksOf (line : IgnoreLine) (names : List String) (isDirectory : Bool) : Bool :=
  (isDirectory || !line.directoriesOnly) && IgnorePart.matchNames line.parts names

end IgnoreLine

namespace FileTree

/-- The lines of the ignore file at a place. -/
def ignoreLines (t : FileTree) (file : Place) : List IgnoreLine :=
  match t.node? file with
  | some (.file content) =>
    match Utf8.decode? content with
    | some text => (Text.lines text.toList).filterMap IgnoreLine.read?
    | none => []
  | _ => []

/-- Whether a directory is the top of a repository. -/
def isRepository (t : FileTree) (directory : Place) : Bool :=
  (t.node? (directory ++ [".git"])).isSome

/-- What a place begins with, from nothing to the whole of it. -/
def beginnings (place : Place) : List Place := (List.range (place.length + 1)).map place.take

/-- The directories above a place, the uppermost first. -/
def above (place : Place) : List Place := (beginnings place).filter (isBelow · place)

/-- The directories above a place that lie in its innermost repository. -/
def inRepository (t : FileTree) (place : Place) : List Place :=
  let tops := (above place).filter t.isRepository
  match tops.getLast? with
  | none => []
  | some top => (above place).filter top.isPrefixOf

/-- **What the ignore files of some directories say about a place:** whether it is left out, if
one of them has a line that speaks of it. -/
def verdict? (t : FileTree) (place : Place) (isDirectory : Bool) (file : Place)
    (directories : List Place) : Option Bool :=
  directories.reverse.findSome? fun directory =>
    let names := place.drop directory.length
    ((t.ignoreLines (directory ++ file)).reverse.find? (·.speaksOf names isDirectory)).map
      (!·.letsIn)

/-- **Whether ignore files leave out** what stands at a place. -/
def ignores (t : FileTree) (place : Place) (isDirectory : Bool) : Bool :=
  let verdict? := t.verdict? place isDirectory
  (verdict? [".ignore"] (above place)
    <|> verdict? [".gitignore"] (t.inRepository place)
    <|> verdict? [".git", "info", "exclude"] (t.inRepository place)).getD false

end FileTree

end Discern
