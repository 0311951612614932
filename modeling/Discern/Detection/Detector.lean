import Discern.Classification
import Discern.Detection.Probe
import Discern.Rule.Table

/-!
# Detectors

A detector declares the formats it can report and, asked for some of them, takes a
look at a stream.  The library knows two kinds: one judges by the signatures of a
library, the other by a table of rules.
-/

namespace Discern

/-- **A detector,** asked for the tags of a set. -/
structure Detector where
  name : String
  declared : TagSet
  look : TagSet → Probe

namespace Library

/-- The tags of the formats that have signatures. -/
def declared (library : Library) : TagSet :=
  .ofList ((library.formats.filter (!·.isExtensionOnly)).map FileFormat.tag)

/-- **The best positive hit among the asked tags.**  A stream has no name, so there
is nothing to guess from. -/
def detect (library : Library) (asked : TagSet) (content : Bytes) : FormatId :=
  let hits := (library.classify content none).hits.filter Hit.isPositive
  match hits.find? fun hit => asked.contains hit.formatId.tag with
  | some hit => hit.formatId
  | none => .unknown

end Library

namespace RuleTable

/-- **The tag of the first entry,** among those with an asked tag, whose rule holds for
a content that begins with `lead`. -/
def detect (table : RuleTable) (asked : TagSet) (lead : Bytes) : FormatId :=
  match firstMatch? (table.enabled asked) lead with
  | some entry => { tag := entry.tag }
  | none => .unknown

end RuleTable

namespace Detector

/-- The detector that judges by signatures.  With a limit it sees the first bytes
only. -/
def ofLibrary (library : Library) (limit : Option Nat) : Detector where
  name := "SignatureDetector"
  declared := library.declared
  look asked := .judge limit (library.detect asked)

/-- The detector that judges by a table of rules.  It reads as much as the widest rule
with an asked tag wants to see, and nothing if there is none. -/
def ofTable (table : RuleTable) : Detector where
  name := "ModuleDetector"
  declared := table.declared
  look asked :=
    let entries := table.enabled asked
    if entries.isEmpty then .answer (.ok .unknown)
    else .judge (some (RuleTable.windowOf entries)) (table.detect asked)

end Detector

end Discern
