import Discern.Library.FileFormat

/-!
# Hits

A hit says that a content, or only the name of its file, suggests a format, how
sure that is, and whether something speaks against it.
-/

namespace Discern

/-- **Confidence of a hit,** the best first. -/
inductive Confidence where
  | positiveSpecific
  | positiveGeneric
  | tentative
deriving DecidableEq, Inhabited

namespace Confidence

/-- The place in the order from best to worst. -/
def rank : Confidence → Nat
  | positiveSpecific => 0
  | positiveGeneric => 1
  | tentative => 2

/-- Whether a signature stands behind the hit. -/
def isPositive : Confidence → Bool
  | tentative => false
  | _ => true

def display : Confidence → String
  | positiveSpecific => "positive (specific)"
  | positiveGeneric => "positive (generic)"
  | tentative => "tentative"

/-- The confidence of a signature. -/
def ofSpecific (specific : Bool) : Confidence :=
  if specific then positiveSpecific else positiveGeneric

end Confidence

/-- **Doubt about a hit** that was kept. -/
inductive HitWarning where
  /-- The extension is missing or none of the format's. -/
  | extensionMismatch
deriving DecidableEq, Inhabited

def HitWarning.display : HitWarning → String
  | extensionMismatch => "possible file extension mismatch"

/-- **A format suggested for a content.** -/
structure Hit where
  format : UInt32
  formatId : FormatId
  name : String
  mimeType : Option String := none
  confidence : Confidence
  specific : Bool
  warning : Option HitWarning := none
deriving DecidableEq, Inhabited

namespace Hit

/-- A hit on a format, without a doubt. -/
def ofFormat (format : FileFormat) (confidence : Confidence) (specific : Bool) : Hit :=
  { format := format.id, formatId := format.formatId, name := format.name,
    mimeType := format.mimeType, confidence, specific }

/-- A hit by a signature. -/
def positive (format : FileFormat) (specific : Bool) : Hit :=
  ofFormat format (.ofSpecific specific) specific

/-- A hit by the name of the file alone. -/
def tentative (format : FileFormat) : Hit := ofFormat format .tentative false

def isPositive (hit : Hit) : Bool := hit.confidence.isPositive

/-- The hit with the doubt that the extension does not fit. -/
def doubted (hit : Hit) : Hit := { hit with warning := some .extensionMismatch }

end Hit

end Discern
