import Discern.Glob
import Discern.Library.Schema
import Discern.Rule.Table

/-!
# Configuration errors

What makes a configuration unusable: a library, a rule table or an exclusion that does
not read, or a value out of its range.  Nothing is identified before all of them are
ruled out.
-/

namespace Discern

/-- **Values that a configuration may not have.** -/
inductive RangeFlaw where
  | recursion (n limit : Nat)
  | readLimit (n least : Nat)
  | fileSize
deriving DecidableEq, Inhabited

namespace RangeFlaw

/-- The field with the value. -/
def field : RangeFlaw → String
  | recursion .. => "max_recursion"
  | readLimit .. => "read_limit"
  | fileSize => "max_file_size"

def reason : RangeFlaw → String
  | recursion n limit => s!"{n} exceeds the limit of {limit}"
  | readLimit n least => s!"{n} is below the minimum of {least} bytes"
  | fileSize => "must be at least 1 byte"

end RangeFlaw

/-- **Why a configuration cannot be used.** -/
inductive ConfigError where
  | library (error : LibraryError)
  | table (error : TableError)
  /-- An exclusion that does not compile, with its text and what is wrong with it. -/
  | exclusion (pattern reason : String)
  | range (flaw : RangeFlaw)
deriving DecidableEq, Inhabited

def ConfigError.message : ConfigError → String
  | library error => error.message
  | table error => error.message
  | exclusion pattern reason => s!"Invalid glob pattern: {pattern} ({reason})"
  | range flaw => s!"Invalid value for {flaw.field}: {flaw.reason}"

/-- The name of an error, by which errors are told apart. -/
def ConfigError.name : ConfigError → String
  | library error => error.name
  | table error => error.flaw.name
  | exclusion .. => "InvalidGlobPattern"
  | range _ => "ValueOutOfRange"

end Discern
