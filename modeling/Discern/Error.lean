import Discern.Configuration.Error
import Discern.Files.Path
import Discern.Stream.Error

/-!
# Errors

Why something cannot be identified: the configuration cannot be used, a stream fails, or
a file cannot be read.  `Error.message` is the error itself and `Error.causes` what led to
it.
-/

namespace Discern

/-- **Why something cannot be identified.** -/
inductive Error where
  | config (error : ConfigError)
  | stream (error : StreamError)
  | fileRead (path : Path) (fault : Fault)
  | fileTooBig (path : Path) (size limit : Nat)
  | notRegular (path : Path)
  /-- A failure that was reported from outside. -/
  | foreign (message : String)
deriving DecidableEq, Inhabited

namespace Error

def message : Error → String
  | config error => error.message
  | stream error => error.message
  | fileRead path _ => s!"Failed to read file: {path.text}"
  | fileTooBig path size limit =>
    s!"File too large: {path.text} ({size} bytes, limit {limit} bytes)"
  | notRegular path => s!"Not a regular file: {path.text}"
  | foreign message => message

/-- The name of an error, by which errors are told apart. -/
def name : Error → String
  | config error => error.name
  | stream _ => "Stream"
  | fileRead .. => "FileRead"
  | fileTooBig .. => "FileTooBig"
  | notRegular _ => "FileNotRegular"
  | foreign _ => "Other"

/-- What led to an error, the nearest cause first. -/
def causes : Error → List String
  | stream error => [error.fault.message]
  | fileRead _ fault => [fault.message]
  | _ => []

end Error

end Discern
