import Discern.Configuration.Error
import Discern.Detection.Strategy
import Discern.Exclusion

/-!
# Configurations

A configuration bounds what a detection reads and unwraps, chooses the library, the rule
table and the formats to look for, takes detectors and decoders out, and keeps walks away
from paths.  `Configuration.validate` says whether its values are in range and its
exclusions compile.
-/

namespace Discern

/-- **The settings of an identification.** -/
structure Configuration where
  /-- The layers beyond the first that are detected. -/
  maxRecursion : UInt64 := Strategy.defaultRecursion
  /-- The bytes that a detector may inspect in a layer; no limit means all. -/
  readLimit : Option UInt64 := none
  /-- The greatest size of a file that is read. -/
  maxFileSize : UInt64 := 268435456
  /-- The tags to look for; none means all that are declared. -/
  enabledFormats : List String := []
  signatureFile : Option String := none
  modulesFile : Option String := none
  disabledDetectors : List String := []
  disabledDecoders : List String := []
  exclude : List String := [".git/**", "target/**"]
deriving DecidableEq, Inhabited

namespace Configuration

/-- The default settings. -/
def default : Configuration := {}

/-- The name of the configuration file that is looked for where none is named. -/
def fileName : String := ".formatscope.toml"

/-- The greatest number of layers that may be asked for. -/
def recursionLimit : UInt64 := 64

/-- The least read limit: the widest window of a built-in rule. -/
def leastReadLimit : UInt64 := 1024

/-- The compiled exclusions, or the first that does not compile. -/
def exclusions (c : Configuration) : Except ConfigError (List Exclusion) :=
  c.exclude.mapM fun pattern =>
    (Exclusion.compile pattern).mapError fun e => .exclusion pattern e.message

/-- The first value that is out of its range. -/
def rangeFlaw? (c : Configuration) : Option RangeFlaw :=
  if recursionLimit < c.maxRecursion then
    some (.recursion c.maxRecursion.toNat recursionLimit.toNat)
  else if c.readLimit.any (· < leastReadLimit) then
    c.readLimit.map fun n => .readLimit n.toNat leastReadLimit.toNat
  else if c.maxFileSize = 0 then some .fileSize
  else none

/-- **Check the ranges of values and the exclusions.** -/
def validate (c : Configuration) : Except ConfigError Unit :=
  match c.rangeFlaw? with
  | some flaw => .error (.range flaw)
  | none => do
    let _ ← c.exclusions
    return ()

/-- **The tags to look for** where some are declared. -/
def enabled (c : Configuration) (declared : TagSet) : TagSet :=
  if c.enabledFormats.isEmpty then declared else .ofList (c.enabledFormats.map .ofString)

end Configuration

end Discern
