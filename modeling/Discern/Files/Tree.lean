import Discern.Bytes
import Discern.Files.Path
import Discern.Stream.Fault

/-!
# File trees

A `FileTree` is what a program can see of a file system: the contents of files, and
directories.  Files are kept under the names that lead to them from the working directory;
the root of the file system has the name `/`.

A path is resolved step by step, and each step but the last has to arrive at a directory.
-/

namespace Discern

/-- **Names that lead to a file** from the working directory. -/
abbrev Place := List String

/-- **What stands at a place.** -/
inductive FileNode where
  | file (content : Bytes)
  | directory
deriving DecidableEq, Inhabited

/-- **A tree of files.**  The directories above a file or another directory exist without
being listed. -/
structure FileTree where
  files : List (Place × Bytes)
  directories : List Place
deriving Inhabited

namespace FileTree

/-- A tree with nothing but the working directory. -/
def empty : FileTree := ⟨[], []⟩

/-- Put a file at a place. -/
def addFile (t : FileTree) (place : Place) (content : Bytes) : FileTree :=
  { t with files := t.files.filter (·.1 != place) ++ [(place, content)] }

def addDirectory (t : FileTree) (place : Place) : FileTree :=
  { t with directories := t.directories ++ [place] }

/-- Whether a place lies below another one. -/
def isBelow (directory place : Place) : Bool :=
  directory.isPrefixOf place &&
    match place.drop directory.length with
    | [] => false
    | next :: _ => next != "/" && next != ".."

/-- Whether a place is the working directory, one above it, or the root. -/
def isAlwaysThere (place : Place) : Bool := place.all (· == "..") || place == ["/"]

/-- **What stands at a place.** -/
def node? (t : FileTree) (place : Place) : Option FileNode :=
  match t.files.find? (·.1 == place) with
  | some (_, content) => some (.file content)
  | none =>
    if isAlwaysThere place || t.directories.contains place
        || t.files.any (fun f => isBelow place f.1) || t.directories.any (isBelow place) then
      some .directory
    else none

/-- The place above a place. -/
def parent (place : Place) : Place :=
  match place.getLast? with
  | none => [".."]
  | some ".." => place ++ [".."]
  | some "/" => place
  | some _ => place.dropLast

/-- Follow the pieces of a path from a place. -/
def follow (t : FileTree) (place : Place) : List String → Except Fault Place
  | [] => if (t.node? place).isSome then .ok place else .error .absent
  | piece :: rest =>
    match t.node? place with
    | none => .error .absent
    | some (.file _) => .error .noDirectory
    | some .directory =>
      if piece.isEmpty || piece == "." then t.follow place rest
      else if piece == ".." then t.follow (parent place) rest
      else t.follow (place ++ [piece]) rest

/-- The place that a path names where all its steps but the last are directories. -/
def placeOf (path : Path) : Place :=
  path.steps.foldl (fun place step =>
    match step with
    | .root => ["/"]
    | .here => place
    | .up => parent place
    | .name s => place ++ [s]) []

/-- **The place that a path leads to.** -/
def locate (t : FileTree) (path : Path) : Except Fault Place :=
  match path.pieces with
  | [""] => .error .absent
  | "" :: rest => t.follow ["/"] rest
  | pieces => t.follow [] pieces

/-- **What a path leads to.** -/
def look (t : FileTree) (path : Path) : Except Fault FileNode :=
  match t.locate path with
  | .error fault => .error fault
  | .ok place =>
    match t.node? place with
    | some node => .ok node
    | none => .error .absent

def isDirectory (t : FileTree) (path : Path) : Bool :=
  match t.look path with
  | .ok .directory => true
  | _ => false

def isFile (t : FileTree) (path : Path) : Bool :=
  match t.look path with
  | .ok (.file _) => true
  | _ => false

/-- **The content of a file.** -/
def read (t : FileTree) (path : Path) : Except Fault Bytes := do
  match ← t.look path with
  | .file content => return content
  | .directory => throw .directory

/-- **The text of a file.** -/
def readText (t : FileTree) (path : Path) : Except Fault String := do
  match Utf8.decode? (← t.read path) with
  | some text => return text
  | none => throw .notText

end FileTree

end Discern
