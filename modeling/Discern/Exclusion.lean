import Discern.Glob

/-!
# Exclusions

An exclusion keeps a walk away from paths.  It is written as a glob over paths relative
to the root of the walk; a backslash is read as `/`.  A pattern that ends in `/` speaks
of directories: it excludes all that lies in them, but no file of their name.

`excludesFile` decides about a file, and `prunesDirectory` about a directory before the
walk enters it.
-/

namespace Discern

/-- **A compiled exclusion.**  `directory` is the pattern of a directory rule without its
last `/`; a recursive rule can reach inside directories that it does not name. -/
structure Exclusion where
  glob : Glob
  directory : Option String
  recursive : Bool
deriving DecidableEq, Inhabited

namespace Exclusion

/-- The characters of a pattern with `/` between components. -/
def separators (pattern : String) : List Char :=
  pattern.toList.map fun c => if c == '\\' then '/' else c

/-- Whether a text has two stars in a row. -/
def hasDoubleStar : List Char → Bool
  | '*' :: '*' :: _ => true
  | _ :: rest => hasDoubleStar rest
  | [] => false

/-- **Compile a pattern.** -/
def compile (pattern : String) : Except GlobError Exclusion :=
  let cs := separators pattern
  if cs.getLast? = some '/' then do
    let glob ← Glob.read (String.ofList (cs ++ ['*', '*']))
    return { glob, directory := some (String.ofList cs.dropLast), recursive := true }
  else do
    let glob ← Glob.read (String.ofList cs)
    return { glob, directory := none, recursive := hasDoubleStar cs }

/-- Drop the `/` at the end of a path. -/
def dropSlashes (path : String) : String :=
  String.ofList (path.toList.reverse.dropWhile (· == '/')).reverse

/-- A name that no walk meets; it stands for whatever a directory holds. -/
def placeholder : String := "__formatscope_placeholder__"

/-- **Whether a walk can pass over a directory.**  The root of the walk, which has an
empty path, is always entered. -/
def prunesDirectory (rule : Exclusion) (path : String) : Bool :=
  !path.isEmpty
    && (rule.glob.accepts path
      || rule.recursive && rule.glob.accepts (dropSlashes path ++ "/" ++ placeholder))

/-- **Whether a walk leaves out a file.** -/
def excludesFile (rule : Exclusion) (path : String) : Bool :=
  rule.glob.accepts path && rule.directory != some path

end Exclusion

end Discern
