import Discern.Document.Json
import Discern.Document.Toml
import Discern.Document.Yaml
import Discern.Files.Path
import Discern.Library.Schema

/-!
# Encodings of library documents

A library document is written as TOML, JSON or YAML.  The extension of a file says which.
-/

namespace Discern

/-- **An encoding of documents.** -/
inductive Encoding where
  | toml
  | json
  | yaml
deriving DecidableEq, Inhabited

namespace Encoding

/-- The encoding that an extension stands for, in any case. -/
def ofExtension? (ext : String) : Option Encoding :=
  match String.ofList (ext.toList.map Char.toLower) with
  | "toml" => some toml
  | "json" => some json
  | "yaml" => some yaml
  | "yml" => some yaml
  | _ => none

/-- The encoding of the file at a path. -/
def ofPath? (path : Path) : Option Encoding := path.extension?.bind ofExtension?

/-- Read a document. -/
def read? : Encoding → String → Option Datum
  | toml => Toml.parse?
  | json => Json.parse?
  | yaml => Yaml.parse?

end Encoding

namespace LibraryDocument

/-- **Read a library document.**  `source` says in errors where it comes from. -/
def read (encoding : Encoding) (source text : String) : Except LibraryError LibraryDocument :=
  match (encoding.read? text).bind ofDatum? with
  | some document => .ok document
  | none => .error (.unreadable source "not a signature library")

end LibraryDocument

end Discern
