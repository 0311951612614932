import Discern.Format

/-!
# File formats

A `FileFormat` is an entry of a signature library: what a format is called, which
extensions its files carry, which signatures recognise it and which formats give
way to it.
-/

namespace Discern

/-- **A format known to a library.**  `signatures` lists the ids of the signatures
that recognise it; `hasPriorityOver` lists the formats whose hits are dropped when
this one hits too. -/
structure FileFormat where
  id : UInt32
  name : String
  tag : FormatTag
  version : String := ""
  mimeType : Option String := none
  extensions : List String := []
  signatures : List UInt32 := []
  hasPriorityOver : List UInt32 := []
deriving DecidableEq, Inhabited

/-- Two ASCII texts that differ in case at most. -/
def sameIgnoringCase (a b : String) : Bool :=
  a.toList.map Char.toLower == b.toList.map Char.toLower

namespace FileFormat

def formatId (format : FileFormat) : FormatId := ⟨format.tag, format.version⟩

/-- Without signatures a format is suggested by file names alone. -/
def isExtensionOnly (format : FileFormat) : Bool := format.signatures.isEmpty

/-- Whether the format declares an extension, in any case. -/
def hasExtension (format : FileFormat) (ext : String) : Bool :=
  format.extensions.any (sameIgnoringCase · ext)

end FileFormat

end Discern
