import Discern.Detection.Strategy
import Discern.Text.Quoted

/-!
# Descriptions

One-line texts that show what a strategy or a detection consists of, to those who look
for the reason of an answer.
-/

namespace Discern

open Text

/-- A list of texts between two brackets. -/
private def between (openMark closeMark : String) (texts : List String) : String :=
  openMark ++ ", ".intercalate texts ++ closeMark

/-- A name with named parts. -/
private def described (name : String) (parts : List (String × String)) : String :=
  name ++ between " \x7b " " \x7d" (parts.map fun part => part.1 ++ ": " ++ part.2)

def FormatTag.describe (tag : FormatTag) : String := s!"FormatTag({Quoted.quote tag.text})"

def FormatId.describe (id : FormatId) : String :=
  described "FormatId" [("tag", id.tag.describe), ("version", Quoted.quote id.version)]

/-- The tags with a decoder. -/
def DecoderRegistry.describe (r : DecoderRegistry) : String :=
  between "\x7b" "\x7d" (r.tags.tags.map FormatTag.describe)

/-- The tags of a table in its order. -/
def RuleTable.describe (table : RuleTable) : String :=
  between "[" "]" (table.tags.map FormatTag.describe)

/-- **What a strategy consists of.** -/
def Strategy.describe (s : Strategy) : String :=
  described "DetectionStrategy" [
    ("detectors", between "[" "]" (s.detectors.map fun d => Quoted.quote d.name)),
    ("decoders", s.decoders.describe),
    ("max_recursion", toString s.maxRecursion),
    ("read_limit", match s.readLimit with
      | none => "None"
      | some n => s!"Some({n})")]

/-- **The layers of a detection.** -/
def Detection.describe (d : Detection) : String :=
  between "Detection \x7b " ", .. \x7d"
    ["layers: " ++ between "[" "]" (d.layers.map FormatId.describe)]

end Discern
