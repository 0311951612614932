import Discern.Library.Schema

/-!
# The built-in signature library

The formats that are known without a library document, and the signatures that
recognise them.
-/

namespace Discern.LibraryDocument

/-- A signature whose one sequence begins with a pattern. -/
private def beginsWith (id : UInt32) (specific : Bool) (pattern : String) : SignatureEntry :=
  { id, specific, sequences := [{ anchor := .bof, pattern := some pattern }] }

/-- The signature of a document that begins with a pattern and ends with the
marker `%%EOF`, behind which a line end may stand. -/
private def withEndMarker (id : UInt32) (specific : Bool) (pattern : String) : SignatureEntry :=
  { id, specific
    sequences := [
      { anchor := .bof, pattern := some pattern },
      { anchor := .eof
        subSequences := [{ gap := some "\x7b0-2\x7d", pattern := "'%%EOF'" }] }] }

private def archives : List FileFormat := [
  { id := 1, name := "ZIP archive", tag := .ofString "zip"
    mimeType := some "application/zip", extensions := ["zip"]
    signatures := [1] },
  { id := 2, name := "Java archive", tag := .ofString "jar"
    mimeType := some "application/java-archive", extensions := ["jar"]
    signatures := [2], hasPriorityOver := [1] },
  { id := 3, name := "GZIP compressed data", tag := .ofString "gzip"
    mimeType := some "application/gzip", extensions := ["gz", "tgz"]
    signatures := [3] },
  { id := 4, name := "POSIX tar archive", tag := .ofString "tar"
    mimeType := some "application/x-tar", extensions := ["tar"]
    signatures := [4] }]

private def documents : List FileFormat := [
  { id := 10, name := "Portable Document Format", tag := .ofString "pdf"
    mimeType := some "application/pdf", extensions := ["pdf"]
    signatures := [10] },
  { id := 11, name := "Portable Document Format", tag := .ofString "pdf", version := "1.4"
    mimeType := some "application/pdf", extensions := ["pdf"]
    signatures := [11], hasPriorityOver := [10] },
  { id := 12, name := "Portable Document Format", tag := .ofString "pdf", version := "1.7"
    mimeType := some "application/pdf", extensions := ["pdf"]
    signatures := [12], hasPriorityOver := [10] },
  { id := 13, name := "Extensible Markup Language", tag := .ofString "xml"
    mimeType := some "application/xml", extensions := ["xml"]
    signatures := [13] },
  { id := 14, name := "Scalable Vector Graphics", tag := .ofString "svg"
    mimeType := some "image/svg+xml", extensions := ["svg"]
    signatures := [14], hasPriorityOver := [13] }]

private def images : List FileFormat := [
  { id := 20, name := "Portable Network Graphics", tag := .ofString "png"
    mimeType := some "image/png", extensions := ["png"]
    signatures := [20] },
  { id := 21, name := "JPEG File Interchange Format", tag := .ofString "jpeg"
    mimeType := some "image/jpeg", extensions := ["jpg", "jpeg", "jpe"]
    signatures := [21] },
  { id := 22, name := "Graphics Interchange Format", tag := .ofString "gif"
    mimeType := some "image/gif", extensions := ["gif"]
    signatures := [22] }]

private def executables : List FileFormat := [
  { id := 30, name := "Executable and Linkable Format", tag := .ofString "elf"
    mimeType := some "application/x-executable", extensions := ["so", "o", "elf"]
    signatures := [30] }]

private def nameOnly : List FileFormat := [
  { id := 40, name := "Plain text", tag := .ofString "txt"
    mimeType := some "text/plain", extensions := ["txt", "text", "log"] },
  { id := 41, name := "Comma-separated values", tag := .ofString "csv"
    mimeType := some "text/csv", extensions := ["csv"] },
  { id := 42, name := "Markdown", tag := .ofString "markdown"
    mimeType := some "text/markdown", extensions := ["md", "markdown"] },
  { id := 43, name := "Base64 encoded data", tag := .ofString "base64"
    extensions := ["b64", "base64"] }]

private def builtInSignatures : List SignatureEntry := [
  beginsWith 1 true "50 4B 03 04",
  { id := 2, specific := true
    sequences := [
      { anchor := .bof, pattern := some "50 4B 03 04" },
      { anchor := .variable, offset := 30, pattern := some "'META-INF/'" }] },
  beginsWith 3 true "1F 8B 08",
  { id := 4, specific := false
    sequences := [
      { anchor := .bof, offset := 257, pattern := some "'ustar'" }] },
  withEndMarker 10 false "'%PDF-'",
  withEndMarker 11 true "'%PDF-1.4'",
  withEndMarker 12 true "'%PDF-1.7'",
  beginsWith 13 false "'<?xml'",
  beginsWith 14 false "'<?xml' * '<svg'",
  beginsWith 20 true "89 'PNG' 0D 0A 1A 0A",
  beginsWith 21 false "FF D8 FF",
  beginsWith 22 true "'GIF8' ?? 'a'",
  beginsWith 30 false "7F 'ELF'"]

/-- **The built-in library.** -/
def builtIn : LibraryDocument where
  version := schemaVersion
  dateCreated := some "2026-01-12"
  formats := archives ++ documents ++ images ++ executables ++ nameOnly
  signatures := builtInSignatures

end Discern.LibraryDocument
