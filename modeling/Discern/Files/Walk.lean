import Discern.Exclusion
import Discern.Files.Ignore

/-!
# Walks

A walk visits the files below a directory.  What stands there it learns from a walker
(`Walker`), which may leave out what it likes; `Walker.heedful` leaves out what ignore files name.
The walk keeps the walker away from directories that an exclusion prunes, and passes over files
that one excludes.

A path that is no directory is visited as it is, even if nothing stands there: what is wrong with
it shows when it is read.
-/

namespace Discern

/-- **What a walker takes something for.**  A link is neither a file nor a directory. -/
inductive EntryKind where
  | file
  | directory
  | other
deriving DecidableEq, Inhabited

/-- **Something that a walker comes upon,** with the names that lead there from the directory at
which it began. -/
structure WalkEntry where
  names : List String
  kind : EntryKind
deriving DecidableEq, Inhabited

/-- **A walker** lists what stands at and below a directory, and passes over whatever a test
refuses and all that is below it. -/
abbrev Walker := FileTree → Path → (WalkEntry → Bool) → List WalkEntry

/-- The names below the root of a walk as exclusions see them. -/
def relativePath (names : List String) : String :=
  let cs := Exclusion.separators ("/".intercalate names)
  match cs with
  | '.' :: '/' :: rest => String.ofList rest
  | _ => String.ofList cs

namespace WalkEntry

/-- Whether a walk lets its walker in: to its root, and to whatever is no pruned directory. -/
def isOpen (rules : List Exclusion) (entry : WalkEntry) : Bool :=
  entry.names.isEmpty || entry.kind != .directory
    || !rules.any (·.prunesDirectory (relativePath entry.names))

/-- Whether a walk visits an entry. -/
def isVisited (rules : List Exclusion) (entry : WalkEntry) : Bool :=
  entry.kind == .file && !rules.any (·.excludesFile (relativePath entry.names))

end WalkEntry

namespace FileTree

/-- **The files that a walk visits.** -/
def walk (t : FileTree) (walker : Walker) (rules : List Exclusion) (root : Path) : List Path :=
  if t.isDirectory root then
    ((walker t root (·.isOpen rules)).filter (·.isVisited rules)).map fun entry =>
      root.join ("/".intercalate entry.names)
  else [root]

/-- A path that is no directory is visited as it is, whatever the walker and the exclusions. -/
theorem walk_of_not_directory {t : FileTree} {root : Path} (single : t.isDirectory root = false)
    (walker : Walker) (rules : List Exclusion) : t.walk walker rules root = [root] := by
  rw [walk, single, if_neg Bool.false_ne_true]

/-- The names that lead from a place to what stands at it and below. -/
def namesBelow (t : FileTree) (root : Place) : List (List String) :=
  let ends := (t.files.map Prod.fst ++ t.directories).filter (isBelow root)
  (ends.flatMap fun place => beginnings (place.drop root.length)).eraseDups

/-- What stands at the end of names that lead from a place. -/
def entry (t : FileTree) (root : Place) (names : List String) : WalkEntry where
  names
  kind :=
    match t.node? (root ++ names) with
    | some (.file _) => .file
    | some .directory => .directory
    | none => .other

end FileTree

/-- **The walker that heeds ignore files.**  It leaves out what they name, except for the directory
at which it begins. -/
def Walker.heedful : Walker := fun t root isOpen =>
  match t.locate root with
  | .error _ => []
  | .ok place =>
    let isEntered (names : List String) : Bool :=
      let entry := t.entry place names
      isOpen entry
        && (names.isEmpty || !t.ignores (place ++ names) (entry.kind == .directory))
    ((t.namesBelow place).filter fun names => (FileTree.beginnings names).all isEntered).map
      (t.entry place)

end Discern
