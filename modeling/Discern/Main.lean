import Discern.CommandLine.Snapshot

/-!
# The program

`main` looks at what the arguments name, hands it to `CommandLine.run` as a tree of files,
and prints what comes back.  What cannot be read is left out of the tree.
-/

namespace Discern.CommandLine

/-- Read a file into a tree, or note a directory. -/
def loadEntry (t : FileTree) (entry : IO.FS.DirEntry) (place : Place) : IO FileTree := do
  try
    match (← entry.path.metadata).type with
    | .file => return t.addFile place (← IO.FS.readBinFile entry.path).toList
    | .dir => return t.addDirectory place
    | _ => return t
  catch _ => return t

/-- Read what lies below a directory, without following links. -/
partial def loadBelow (t : FileTree) (entry : IO.FS.DirEntry) (place : Place) :
    IO FileTree := do
  let inner ← try entry.path.readDir catch _ => pure #[]
  inner.foldlM (fun t found => do
    let place := place ++ [found.fileName]
    match (← found.path.symlinkMetadata).type with
    | .file => loadEntry t found place
    | .dir => loadBelow (← loadEntry t found place) found place
    | _ => return t) t

/-- Read what a path names. -/
def loadPath (t : FileTree) (path : Path) : IO FileTree :=
  loadEntry t ⟨".", path.text⟩ (FileTree.placeOf path)

/-- Read what a path names and all that lies below it. -/
def loadTree (t : FileTree) (path : Path) : IO FileTree := do
  let place := FileTree.placeOf path
  let named ← loadPath t path
  let marked ← (ignoreFiles place).foldlM (fun t place =>
    loadEntry t ⟨".", "/".intercalate place⟩ place) named
  if named.isDirectory path then loadBelow marked ⟨".", path.text⟩ place else return marked

end Discern.CommandLine

open Discern in
def main (args : List String) : IO UInt32 := do
  let stdout ← IO.getStdout
  let color := (← stdout.isTty) && (← IO.getEnv "NO_COLOR").isNone
  let mut tree := FileTree.empty
  for _ in [0, 1] do
    tree ← (CommandLine.filesToLoad tree args).foldlM CommandLine.loadPath tree
  tree ← (CommandLine.treesToWalk args).foldlM CommandLine.loadTree tree
  let outcome := CommandLine.run tree color args
  stdout.putStr outcome.stdout
  stdout.flush
  (← IO.getStderr).putStr outcome.stderr
  return outcome.code
