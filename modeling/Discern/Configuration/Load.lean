import Discern.Configuration.Record
import Discern.Files.Tree

/-!
# Loading configurations

A configuration file can fail to be read, to be a configuration, or to be a valid one.
Where a configuration may be missing, such a failure becomes a warning.
-/

namespace Discern

/-- **Why a configuration file cannot be used.** -/
inductive LoadError where
  | reading (path : Path) (fault : Fault)
  | parsing (path : Path)
  | invalid (error : ConfigError)
deriving DecidableEq, Inhabited

namespace LoadError

def message : LoadError → String
  | reading path _ => s!"reading {path.text}"
  | parsing path => s!"parsing {path.text}"
  | invalid error => error.message

/-- What led to an error. -/
def causes : LoadError → List String
  | reading _ fault => [fault.message]
  | parsing _ => ["TOML parse error\nnot a configuration"]
  | invalid _ => []

/-- An error and its causes. -/
def explained (e : LoadError) : String := ": ".intercalate (e.message :: e.causes)

end LoadError

namespace Configuration

/-- **Load a configuration file.** -/
def load (t : FileTree) (path : Path) : Except LoadError Configuration :=
  match t.readText path with
  | .error fault => .error (.reading path fault)
  | .ok text =>
    match ofToml? text with
    | none => .error (.parsing path)
    | some c =>
      match c.validate with
      | .error e => .error (.invalid e)
      | .ok () => .ok c

/-- **Load a configuration file,** or take the defaults and a warning. -/
def loadOrDefault (t : FileTree) : Option Path → Configuration × Option String
  | none => (default, none)
  | some path =>
    match load t path with
    | .ok c => (c, none)
    | .error e =>
      (default, some
        s!"Failed to load config {path.text}: {e.explained}. Using defaults.")

end Configuration

end Discern
