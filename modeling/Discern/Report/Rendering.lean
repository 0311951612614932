import Discern.Classification.Record
import Discern.Document.Json
import Discern.Report

/-!
# Rendering reports

Reports are printed as text, a few lines for each path, or as one JSON array.  In text,
colours set off paths and verdicts where they are wanted.
-/

namespace Discern

/-- **The forms of output.** -/
inductive OutputFormat where
  | text
  | json
deriving DecidableEq, Inhabited

/-- **A way to set off text** on a terminal. -/
inductive Style where
  | bold
  | dimmed
  | red
  | green
  | yellow
  | cyan
  | boldGreen
  | boldRed
deriving DecidableEq, Inhabited

namespace Style

/-- The codes that turn a style on. -/
def codes : Style → String
  | bold => "1"
  | dimmed => "2"
  | red => "31"
  | green => "32"
  | yellow => "33"
  | cyan => "36"
  | boldGreen => "1;32"
  | boldRed => "1;31"

/-- What ends a style. -/
def reset : String := "\x1b[0m"

/-- **Set off a text,** if colours are wanted.  Where the text itself ends a style, the
style is turned on again. -/
def paint (style : Style) (color : Bool) (s : String) : String :=
  if color then
    let start := s!"\x1b[{style.codes}m"
    start ++ (reset ++ start).intercalate (s.splitOn reset) ++ reset
  else s

end Style

/-- The style that shows how sure a hit is. -/
def Confidence.style : Confidence → Style
  | positiveSpecific => .boldGreen
  | positiveGeneric => .green
  | tentative => .yellow

/-- **A hit on a line.** -/
def Hit.render (color : Bool) (hit : Hit) : String :=
  hit.confidence.style.paint color hit.formatId.display ++ " (" ++ hit.name
    ++ (hit.mimeType.elim "" (", " ++ ·)) ++ s!") [{hit.confidence.display}]"
    ++ (hit.warning.elim "" fun w => " " ++ Style.yellow.paint color s!"warning: {w.display}")

/-- **Layers on a line,** the outermost first. -/
def renderLayers (color : Bool) (layers : List FormatId) : String :=
  if layers.all FormatId.isUnknown then Style.dimmed.paint color "unidentified"
  else " > ".intercalate <| layers.map fun id =>
    if id.isUnknown then Style.dimmed.paint color "?" else Style.cyan.paint color id.display

namespace Report

variable {α : Type}

/-- The lines of a report. -/
def lines (color : Bool) (shown : α → List String) (r : Report α) : List String :=
  let path := Style.bold.paint color r.path.text
  match r.result with
  | .error e => [path ++ ": " ++ Style.red.paint color "error:" ++ " " ++ e.message]
  | .ok a =>
    match shown a with
    | [] => [path ++ ":"]
    | first :: rest => (path ++ ":" ++ first) :: rest

/-- The record of a report. -/
def toDatum (shown : α → List (String × Datum)) (r : Report α) : Datum :=
  .map (("path", .text r.path.text) :: match r.result with
    | .error e => [("error", .text e.message)]
    | .ok a => shown a)

/-- **Print reports.** -/
def render (format : OutputFormat) (color : Bool) (shownLines : α → List String)
    (shownRecord : α → List (String × Datum)) (reports : List (Report α)) : String :=
  match format with
  | .text => String.join ((reports.flatMap (lines color shownLines)).map (· ++ "\n"))
  | .json => Json.pretty (.seq (reports.map (toDatum shownRecord))) ++ "\n"

/-- **Print classifications.** -/
def renderClassifications (format : OutputFormat) (color : Bool) :
    List (Report Classification) → String :=
  render format color
    (fun c =>
      if c.hits.isEmpty then [" " ++ Style.dimmed.paint color "unidentified"]
      else "" :: c.hits.map ("  " ++ ·.render color))
    (fun c => [("status", .text c.status.name), ("hits", .seq (c.hits.map Hit.toDatum))])

/-- **Print layers.** -/
def renderDetections (format : OutputFormat) (color : Bool) :
    List (Report (List FormatId)) → String :=
  render format color
    (fun layers => [" " ++ renderLayers color layers])
    (fun layers => [("layers", .texts (layers.map FormatId.display))])

end Report

end Discern
