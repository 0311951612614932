import Discern.Engine
import Discern.Files.Walk

/-!
# Reports

Files and the files below directories, where a walker comes upon them, are identified one by
one.  Each gets a report, and a file that cannot be read has its error there.  Reports stand in
the order of paths, whatever the order in which they come in.
-/

namespace Discern

/-- **What came out for a path.** -/
structure Report (α : Type) where
  path : Path
  result : Except Error α

namespace Report

variable {α : Type}

def isOk (r : Report α) : Bool :=
  match r.result with
  | .ok _ => true
  | .error _ => false

/-- Whether a report succeeds with a result that passes a test. -/
def succeeds (test : α → Bool) (r : Report α) : Bool :=
  match r.result with
  | .ok a => test a
  | .error _ => false

/-- **Put reports into the order of their paths.** -/
def sort (reports : List (Report α)) : List (Report α) :=
  reports.mergeSort fun a b => a.path.le b.path

end Report

namespace Engine

variable {α : Type}

/-- The files to identify for some paths, walk after walk. -/
def filesOf (e : Engine) (walker : Walker) (t : FileTree) (paths : List Path) : List Path :=
  paths.flatMap (t.walk walker e.exclusions)

/-- **Identify all files** at and below some paths, each on its own. -/
def reports (e : Engine) (walker : Walker) (t : FileTree) (identify : Path → Except Error α)
    (paths : List Path) : List (Report α) :=
  Report.sort ((e.filesOf walker t paths).map fun path => ⟨path, identify path⟩)

/-- **Classify all files** at and below some paths. -/
def classifyPaths (e : Engine) (walker : Walker) (t : FileTree) (paths : List Path) :
    List (Report Classification) :=
  e.reports walker t (e.classifyPath t) paths

/-- **Detect the layers of all files** at and below some paths. -/
def detectPaths (e : Engine) (walker : Walker) (t : FileTree) (paths : List Path) :
    List (Report (List FormatId)) :=
  e.reports walker t (e.layersOf t) paths

end Engine

end Discern
