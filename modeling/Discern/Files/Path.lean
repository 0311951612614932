import Discern.Classification.Resolution

/-!
# Paths

A path is kept as it was written.  Its steps forget repeated and final slashes, and a
`.` that does not begin the path.  Paths are ordered by their steps, so that what lies in
a directory stands together: `a/b` comes before `a b` and `a-b`.
-/

namespace Discern

/-- **A step of a path.** -/
inductive PathStep where
  | root
  | here
  | up
  | name (s : String)
deriving DecidableEq, Inhabited

namespace PathStep

/-- The place of a kind of step in the order. -/
def rank : PathStep → Nat
  | root => 0
  | here => 1
  | up => 2
  | name _ => 3

/-- Whether a step comes before another one. -/
def lt : PathStep → PathStep → Bool
  | name a, name b => a < b
  | a, b => a.rank < b.rank

end PathStep

/-- **A path as it is written.** -/
structure Path where
  text : String
deriving DecidableEq, Inhabited

namespace Path

/-- The texts between the slashes of a path. -/
def pieces (p : Path) : List String := p.text.splitOn "/"

/-- The step of a piece that does not begin the path. -/
private def innerStep? : String → Option PathStep
  | "" => none
  | "." => none
  | ".." => some .up
  | s => some (.name s)

/-- **The steps of a path.** -/
def steps (p : Path) : List PathStep :=
  match p.pieces with
  | [] => []
  | [""] => []
  | "" :: rest => .root :: rest.filterMap innerStep?
  | "." :: rest => .here :: rest.filterMap innerStep?
  | pieces => pieces.filterMap innerStep?

/-- Whether steps come before others or are the same. -/
def stepsLe : List PathStep → List PathStep → Bool
  | [], _ => true
  | _ :: _, [] => false
  | a :: as, b :: bs => if a = b then stepsLe as bs else a.lt b

/-- **The order of paths.** -/
def le (p q : Path) : Bool := stepsLe p.steps q.steps

/-- A path inside a directory. -/
def join (directory : Path) (inner : String) : Path :=
  ⟨if directory.text.endsWith "/" then directory.text ++ inner
    else directory.text ++ "/" ++ inner⟩

/-- The last step if it is a name. -/
def fileName? (p : Path) : Option String :=
  match p.steps.getLast? with
  | some (.name s) => some s
  | _ => none

/-- **The extension of the file name:** what follows its last dot, unless that is its
first character. -/
def extension? (p : Path) : Option String := do
  let cs := (← p.fileName?).toList
  let tail := cs.reverse.takeWhile (· != '.')
  if tail.length + 1 < cs.length then some (String.ofList tail.reverse) else none

end Path

end Discern
