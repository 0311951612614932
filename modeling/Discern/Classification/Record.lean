import Discern.Classification
import Discern.Document.Datum

/-!
# Hits and classifications as documents

The record forms of format identities, hits and classifications: what a report
shows, and what reads back as the same value.
-/

namespace Discern

def FormatTag.toDatum (tag : FormatTag) : Datum := .text tag.text

def FormatTag.ofDatum? (d : Datum) : Option FormatTag := d.string?.map FormatTag.ofString

namespace FormatId

def toDatum (id : FormatId) : Datum :=
  .map [("tag", id.tag.toDatum), ("version", .text id.version)]

def ofDatum? (d : Datum) : Option FormatId := do
  match ← d.fields? ["tag", "version"] false with
  | [tag, version] =>
    return ⟨← Datum.required FormatTag.ofDatum? tag,
      ← Datum.withDefault "" Datum.string? version⟩
  | _ => none

end FormatId

namespace Confidence

def name : Confidence → String
  | positiveSpecific => "PositiveSpecific"
  | positiveGeneric => "PositiveGeneric"
  | tentative => "Tentative"

def ofDatum? (d : Datum) : Option Confidence := do
  match ← d.name? with
  | "PositiveSpecific" => some positiveSpecific
  | "PositiveGeneric" => some positiveGeneric
  | "Tentative" => some tentative
  | _ => none

end Confidence

namespace HitWarning

def name : HitWarning → String
  | extensionMismatch => "ExtensionMismatch"

def ofDatum? (d : Datum) : Option HitWarning := do
  match ← d.name? with
  | "ExtensionMismatch" => some extensionMismatch
  | _ => none

end HitWarning

namespace Hit

/-- **Record of a hit.**  Absent parts are left out. -/
def toDatum (hit : Hit) : Datum :=
  .map ([("format", .nat hit.format.toNat), ("format_id", hit.formatId.toDatum),
      ("name", .text hit.name)]
    ++ Datum.entry? "mime_type" .text hit.mimeType
    ++ [("hit_type", .text hit.confidence.name), ("specific", .bool hit.specific)]
    ++ Datum.entry? "warning" (fun w => .text w.name) hit.warning)

def ofDatum? (d : Datum) : Option Hit := do
  match ← d.fields? ["format", "format_id", "name", "mime_type", "hit_type", "specific",
      "warning"] false with
  | [format, formatId, name, mimeType, confidence, specific, warning] =>
    return {
      format := ← Datum.required Datum.word32? format
      formatId := ← Datum.required FormatId.ofDatum? formatId
      name := ← Datum.required Datum.string? name
      mimeType := ← Datum.optional Datum.string? mimeType
      confidence := ← Datum.required Confidence.ofDatum? confidence
      specific := ← Datum.required Datum.bool? specific
      warning := ← Datum.optional HitWarning.ofDatum? warning }
  | _ => none

end Hit

namespace Status

def name : Status → String
  | positive => "positive"
  | tentative => "tentative"
  | unidentified => "unidentified"

def ofDatum? (d : Datum) : Option Status := do
  match ← d.name? with
  | "positive" => some positive
  | "tentative" => some tentative
  | "unidentified" => some unidentified
  | _ => none

end Status

namespace Classification

/-- **Record of a classification.** -/
def toDatum (c : Classification) : Datum :=
  .map [("hits", .seq (c.hits.map Hit.toDatum)), ("status", .text c.status.name)]

def ofDatum? (d : Datum) : Option Classification := do
  match ← d.fields? ["hits", "status"] false with
  | [hits, status] =>
    return ⟨← Datum.required (Datum.seq? Hit.ofDatum?) hits,
      ← Datum.required Status.ofDatum? status⟩
  | _ => none

end Classification

end Discern
