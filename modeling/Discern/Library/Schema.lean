import Discern.Document.Datum
import Discern.Library
import Discern.Signature.Pattern

/-!
# Library documents

A signature library is written as a document: formats, and signatures whose byte
sequences are given as pattern texts.  A sequence is written as one pattern, or as
a list of sub-sequences with leading gaps.  `LibraryDocument.toLibrary` reads the
patterns and prepares the library; `ofDatum?` and `toDatum` are the record form of
a document.
-/

namespace Discern

structure SubSequenceEntry where
  gap : Option String := none
  pattern : String
deriving DecidableEq, Inhabited

/-- **A byte sequence in a document,** given by `pattern` or by `subSequences`. -/
structure SequenceEntry where
  anchor : Anchor
  offset : UInt64 := 0
  pattern : Option String := none
  subSequences : List SubSequenceEntry := []
deriving DecidableEq, Inhabited

structure SignatureEntry where
  id : UInt32
  specific : Bool := false
  sequences : List SequenceEntry := []
deriving DecidableEq, Inhabited

/-- **A signature library as it is written.** -/
structure LibraryDocument where
  version : String
  dateCreated : Option String := none
  formats : List FileFormat := []
  signatures : List SignatureEntry := []
deriving DecidableEq, Inhabited

/-- **Why a library document cannot be used.** -/
inductive LibraryError where
  | unreadable (source message : String)
  | unsupportedFile (path : String)
  | unsupportedVersion (version : String)
  | bothForms (signature : UInt32)
  | pattern (error : PatternError)
  | flaw (flaw : LibraryFlaw)
deriving DecidableEq, Inhabited

def LibraryError.message : LibraryError → String
  | unreadable source message => s!"Failed to parse signature file {source}: {message}"
  | unsupportedFile path =>
    s!"Unsupported signature file: {path} (expected .toml, .json, .yaml or .yml)"
  | unsupportedVersion version => s!"Unsupported signature schema version '{version}'"
  | bothForms signature =>
    s!"Failed to parse signature file signature {signature.toNat}: " ++
      "a sequence takes either `pattern` or `sub_sequences`, not both"
  | pattern error => error.message
  | flaw found => found.message

/-- The name of an error, by which errors are told apart. -/
def LibraryError.name : LibraryError → String
  | unreadable .. => "SignatureFileParse"
  | unsupportedFile _ => "UnsupportedSignatureFile"
  | unsupportedVersion _ => "UnsupportedSchemaVersion"
  | bothForms _ => "SignatureFileParse"
  | pattern _ => "InvalidPattern"
  | flaw found => found.name

/-! ## From a document to a library -/

namespace SubSequenceEntry

def toSubSequence (entry : SubSequenceEntry) : Except LibraryError SubSequence := do
  let sub ← (Pattern.read entry.pattern).mapError .pattern
  match entry.gap with
  | none => return sub
  | some gap => return { sub with offset := ← (Pattern.readGap gap).mapError .pattern }

end SubSequenceEntry

namespace SequenceEntry

/-- The byte sequence of an entry of the given signature. -/
def toSequence (signature : UInt32) (entry : SequenceEntry) :
    Except LibraryError ByteSequence := do
  let subSequences ←
    match entry.pattern, entry.subSequences with
    | some _, _ :: _ => throw (.bothForms signature)
    | some pattern, [] => pure [← (Pattern.read pattern).mapError .pattern]
    | none, subs => subs.mapM SubSequenceEntry.toSubSequence
  return { anchor := entry.anchor, offset := entry.offset, subSequences }

end SequenceEntry

namespace SignatureEntry

def toSignature (entry : SignatureEntry) : Except LibraryError Signature := do
  return {
    id := entry.id, specific := entry.specific
    sequences := ← entry.sequences.mapM (SequenceEntry.toSequence entry.id) }

end SignatureEntry

namespace LibraryDocument

/-- The one schema version that documents are written in. -/
def schemaVersion : String := "1"

/-- **Prepare the library** that a document describes. -/
def toLibrary (document : LibraryDocument) : Except LibraryError Library := do
  if document.version ≠ schemaVersion then
    throw (.unsupportedVersion document.version)
  let signatures ← document.signatures.mapM SignatureEntry.toSignature
  (Library.prepare document.version document.formats signatures).mapError .flaw

end LibraryDocument

/-! ## Record forms -/

namespace Anchor

def name : Anchor → String
  | bof => "bof"
  | eof => "eof"
  | «variable» => "variable"

def ofDatum? (d : Datum) : Option Anchor := do
  match ← d.name? with
  | "bof" => some bof
  | "eof" => some eof
  | "variable" => some «variable»
  | _ => none

end Anchor

/-- Ids as a sequence of numbers. -/
private def ids (list : List UInt32) : Datum := .seq (list.map fun id => .nat id.toNat)

namespace FileFormat

def toDatum (format : FileFormat) : Datum :=
  .map ([("id", .nat format.id.toNat), ("name", .text format.name),
      ("tag", .text format.tag.text), ("version", .text format.version)]
    ++ Datum.entry? "mime_type" .text format.mimeType
    ++ [("extensions", .texts format.extensions), ("signatures", ids format.signatures),
      ("has_priority_over", ids format.hasPriorityOver)])

def ofDatum? (d : Datum) : Option FileFormat := do
  match ← d.fields? ["id", "name", "tag", "version", "mime_type", "extensions", "signatures",
      "has_priority_over"] true with
  | [id, name, tag, version, mimeType, extensions, signatures, hasPriorityOver] =>
    return {
      id := ← Datum.required Datum.word32? id
      name := ← Datum.required Datum.string? name
      tag := FormatTag.ofString (← Datum.required Datum.string? tag)
      version := ← Datum.withDefault "" Datum.string? version
      mimeType := ← Datum.optional Datum.string? mimeType
      extensions := ← Datum.withDefault [] (Datum.seq? Datum.string?) extensions
      signatures := ← Datum.withDefault [] (Datum.seq? Datum.word32?) signatures
      hasPriorityOver := ← Datum.withDefault [] (Datum.seq? Datum.word32?) hasPriorityOver }
  | _ => none

end FileFormat

namespace SubSequenceEntry

def toDatum (entry : SubSequenceEntry) : Datum :=
  .map (Datum.entry? "gap" .text entry.gap ++ [("pattern", .text entry.pattern)])

def ofDatum? (d : Datum) : Option SubSequenceEntry := do
  match ← d.fields? ["gap", "pattern"] true with
  | [gap, pattern] =>
    return ⟨← Datum.optional Datum.string? gap, ← Datum.required Datum.string? pattern⟩
  | _ => none

end SubSequenceEntry

namespace SequenceEntry

def toDatum (entry : SequenceEntry) : Datum :=
  .map ([("anchor", .text entry.anchor.name), ("offset", .nat entry.offset.toNat)]
    ++ Datum.entry? "pattern" .text entry.pattern
    ++ if entry.subSequences.isEmpty then []
      else [("sub_sequences", .seq (entry.subSequences.map SubSequenceEntry.toDatum))])

def ofDatum? (d : Datum) : Option SequenceEntry := do
  match ← d.fields? ["anchor", "offset", "pattern", "sub_sequences"] true with
  | [anchor, offset, pattern, subSequences] =>
    return {
      anchor := ← Datum.required Anchor.ofDatum? anchor
      offset := ← Datum.withDefault 0 Datum.word64? offset
      pattern := ← Datum.optional Datum.string? pattern
      subSequences := ← Datum.withDefault [] (Datum.seq? SubSequenceEntry.ofDatum?) subSequences }
  | _ => none

end SequenceEntry

namespace SignatureEntry

def toDatum (entry : SignatureEntry) : Datum :=
  .map [("id", .nat entry.id.toNat), ("specific", .bool entry.specific),
    ("sequences", .seq (entry.sequences.map SequenceEntry.toDatum))]

def ofDatum? (d : Datum) : Option SignatureEntry := do
  match ← d.fields? ["id", "specific", "sequences"] true with
  | [id, specific, sequences] =>
    return {
      id := ← Datum.required Datum.word32? id
      specific := ← Datum.withDefault false Datum.bool? specific
      sequences := ← Datum.withDefault [] (Datum.seq? SequenceEntry.ofDatum?) sequences }
  | _ => none

end SignatureEntry

namespace LibraryDocument

/-- **Record of a library document.** -/
def toDatum (document : LibraryDocument) : Datum :=
  .map ([("version", .text document.version)]
    ++ Datum.entry? "date_created" .text document.dateCreated
    ++ [("formats", .seq (document.formats.map FileFormat.toDatum)),
      ("signatures", .seq (document.signatures.map SignatureEntry.toDatum))])

/-- **Library document of a record.** -/
def ofDatum? (d : Datum) : Option LibraryDocument := do
  match ← d.fields? ["version", "date_created", "formats", "signatures"] true with
  | [version, dateCreated, formats, signatures] =>
    return {
      version := ← Datum.required Datum.string? version
      dateCreated := ← Datum.optional Datum.string? dateCreated
      formats := ← Datum.withDefault [] (Datum.seq? FileFormat.ofDatum?) formats
      signatures := ← Datum.withDefault [] (Datum.seq? SignatureEntry.ofDatum?) signatures }
  | _ => none

end LibraryDocument

end Discern
