import Discern.Configuration
import Discern.Document.Datum
import Discern.Document.Toml

/-!
# Configurations as documents

A configuration is written as a record in which every field may be missing and no other
field may stand.  Its schema describes the fields and says what stands for a missing one.
-/

namespace Discern.Configuration

/-- **A field of the record:** its name, what it says, and how it is written. -/
structure Field where
  name : String
  description : String
  write : Configuration → Datum

/-- **The fields in their order.** -/
def fields : List Field := [
  { name := "max_recursion"
    description := "Layers detected beyond the first before detection stops (0-64)"
    write c := .nat c.maxRecursion.toNat },
  { name := "read_limit"
    description := "Bytes a detector may inspect per layer; unset means the whole stream"
    write c := .ofOption (fun n => .nat n.toNat) c.readLimit },
  { name := "max_file_size"
    description := "Files larger than this many bytes are refused"
    write c := .nat c.maxFileSize.toNat },
  { name := "enabled_formats"
    description := "Format tags to detect (e.g., [\"zip\", \"base64\"]); "
      ++ "empty enables every declared format"
    write c := .texts c.enabledFormats },
  { name := "signature_file"
    description := "Signature library (.toml, .json, .yaml or .yml); "
      ++ "unset uses the built-in library"
    write c := .ofOption .text c.signatureFile },
  { name := "modules_file"
    description := "Detector module table; unset uses the built-in table"
    write c := .ofOption .text c.modulesFile },
  { name := "disabled_detectors"
    description := "Detector names to disable (e.g., [\"ModuleDetector\"])"
    write c := .texts c.disabledDetectors },
  { name := "disabled_decoders"
    description := "Format tags whose decoders are disabled (e.g., [\"gzip\"])"
    write c := .texts c.disabledDecoders },
  { name := "exclude"
    description := "Glob patterns for paths to skip when walking directories "
      ++ "(e.g., [\"target/**\"])"
    write c := .texts c.exclude }]

/-- **Record of a configuration,** with all its fields. -/
def toDatum (c : Configuration) : Datum := .map (fields.map fun f => (f.name, f.write c))

/-- **Configuration of a record.** -/
def ofDatum? (d : Datum) : Option Configuration := do
  match ← d.fields? (fields.map Field.name) true with
  | [maxRecursion, readLimit, maxFileSize, enabledFormats, signatureFile, modulesFile,
      disabledDetectors, disabledDecoders, exclude] =>
    let texts (fallback : List String) := Datum.withDefault fallback (Datum.seq? Datum.string?)
    return {
      maxRecursion := ← Datum.withDefault default.maxRecursion Datum.word64? maxRecursion
      readLimit := ← Datum.optional Datum.word64? readLimit
      maxFileSize := ← Datum.withDefault default.maxFileSize Datum.word64? maxFileSize
      enabledFormats := ← texts default.enabledFormats enabledFormats
      signatureFile := ← Datum.optional Datum.string? signatureFile
      modulesFile := ← Datum.optional Datum.string? modulesFile
      disabledDetectors := ← texts default.disabledDetectors disabledDetectors
      disabledDecoders := ← texts default.disabledDecoders disabledDecoders
      exclude := ← texts default.exclude exclude }
  | _ => none

/-- **Read a configuration file.** -/
def ofToml? (text : String) : Option Configuration := (Toml.parse? text).bind ofDatum?

/-! ## Schema -/

/-- The type of a field's values, as a schema names it. -/
private def typeOf : Datum → List (String × Datum)
  | .integer _ => [("type", .text "integer"), ("minimum", .nat 0)]
  | .seq _ => [("type", .text "array"), ("items", .map [("type", .text "string")])]
  | _ => []

/-- **The schema of configuration files.** -/
def schema : Datum :=
  .map [
    ("$schema", .text "https://json-schema.org/draft/2020-12/schema"),
    ("title", .text "ScopeConfig"),
    ("type", .text "object"),
    ("properties", .map (fields.map fun f =>
      let value := f.write default
      (f.name, .map ([("description", .text f.description)] ++ typeOf value
        ++ [("default", value)])))),
    ("additionalProperties", .bool false)]

/-- What a schema says about the fields: their descriptions and defaults. -/
def schemaSummary : Datum :=
  .map [
    ("title", .text "ScopeConfig"),
    ("additional_properties", .bool false),
    ("properties", .map (fields.map fun f => (f.name, .map [
      ("description", .text f.description), ("default", f.write default)])))]

end Discern.Configuration
