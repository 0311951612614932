import Discern.Library.FileFormat
import Discern.Signature.Search

/-!
# Signature libraries

A library is a list of file formats and a list of signatures.  `Library.prepare`
checks it as a whole, tells each signature which formats own it, and flattens
every byte sequence into steps.  The checks come in a fixed order, and the first
one that fails is reported:

1. format ids are distinct, then signature ids;
2. a format has priority over declared formats other than itself only;
3. no two formats have priority over each other;
4. each signature has byte sequences, all of a sound shape;
5. each signature that a format lists is declared.
-/

namespace Discern

/-- **A named rule:** a content complies with it when it holds all its sequences.
`owners` is filled in when the library is prepared. -/
structure Signature where
  id : UInt32
  specific : Bool
  sequences : List ByteSequence
  owners : List UInt32 := []
deriving DecidableEq, Inhabited

namespace Signature

/-- Whether a content complies with a signature. -/
def accepts (signature : Signature) (content : Bytes) : Bool :=
  signature.sequences.all (·.occursIn content)

/-- The signature without the owners that it was given elsewhere. -/
def disown (signature : Signature) : Signature := { signature with owners := [] }

/-- The signature with a format among its owners. -/
def addOwner (format : UInt32) (signature : Signature) : Signature :=
  if format ∈ signature.owners then signature
  else { signature with owners := signature.owners ++ [format] }

end Signature

/-- **What makes a library unusable.** -/
inductive LibraryFlaw where
  | duplicateFormat (id : UInt32)
  | duplicateSignature (id : UInt32)
  | unresolvedSignature (format signature : UInt32)
  | unresolvedFormat (format target : UInt32)
  | selfPriority (format : UInt32)
  | mutualPriority (first second : UInt32)
  | noSequence (signature : UInt32)
  | shape (signature : UInt32) (flaw : ShapeFlaw)
deriving DecidableEq, Inhabited

/-- What a flaw in the shape of a sequence is called after the signature's name. -/
def ShapeFlaw.message : ShapeFlaw → String
  | noSubSequence => "has a byte sequence with no sub-sequences"
  | noFragment => "has a sub-sequence with no fragments"
  | emptyFragment => "has a zero-length fragment"
  | misalignedGaps fragments gaps =>
    s!"has {fragments} fragments but {gaps} gaps (expected {fragments - 1})"
  | invertedGap min max => s!"has an inverted gap \x7b{min.toNat}-{max.toNat}\x7d"

def LibraryFlaw.message : LibraryFlaw → String
  | duplicateFormat id => s!"Duplicate file format id {id.toNat}"
  | duplicateSignature id => s!"Duplicate internal signature id {id.toNat}"
  | unresolvedSignature format signature =>
    s!"File format {format.toNat} references unknown internal signature {signature.toNat}"
  | unresolvedFormat format target =>
    s!"File format {format.toNat} has priority over unknown file format {target.toNat}"
  | selfPriority format => s!"File format {format.toNat} declares priority over itself"
  | mutualPriority first second =>
    s!"File formats {first.toNat} and {second.toNat} each declare priority over the other"
  | noSequence signature => s!"Internal signature {signature.toNat} has no byte sequences"
  | shape signature flaw => s!"Internal signature {signature.toNat} {flaw.message}"

/-- The name of a flaw, by which flaws are told apart. -/
def ShapeFlaw.name : ShapeFlaw → String
  | noSubSequence => "EmptyByteSequence"
  | noFragment => "EmptySubSequence"
  | emptyFragment => "EmptyFragment"
  | misalignedGaps .. => "MisalignedGaps"
  | invertedGap .. => "InvalidGap"

def LibraryFlaw.name : LibraryFlaw → String
  | duplicateFormat _ => "DuplicateFormat"
  | duplicateSignature _ => "DuplicateSignature"
  | unresolvedSignature .. => "UnresolvedSignature"
  | unresolvedFormat .. => "UnresolvedFormat"
  | selfPriority _ => "SelfPriority"
  | mutualPriority .. => "MutualPriority"
  | noSequence _ => "EmptySignature"
  | shape _ flaw => flaw.name

/-- The first member of a list that stands in it before. -/
def firstRepeat? {α : Type} [DecidableEq α] (xs : List α) : Option α :=
  go [] xs
where
  go (seen : List α) : List α → Option α
    | [] => none
    | x :: rest => if x ∈ seen then some x else go (x :: seen) rest

/-- **A prepared library.** -/
structure Library where
  version : String
  formats : List FileFormat
  signatures : List Signature
deriving DecidableEq, Inhabited

namespace Library

section Checks

variable (formats : List FileFormat) (signatures : List Signature)

/-- The priority edges in the order of their declaration. -/
def priorities : List (UInt32 × UInt32) :=
  formats.flatMap fun format => format.hasPriorityOver.map (format.id, ·)

/-- What is wrong with one priority edge. -/
def priorityFlaw? (edge : UInt32 × UInt32) : Option LibraryFlaw :=
  if edge.2 = edge.1 then some (.selfPriority edge.1)
  else if formats.any (·.id = edge.2) then none
  else some (.unresolvedFormat edge.1 edge.2)

/-- The first of some priority edges that is also there in the other direction. -/
def mutualAmong? (edges : List (UInt32 × UInt32)) : Option LibraryFlaw :=
  edges.findSome? fun (first, second) =>
    if first < second ∧ (second, first) ∈ edges then some (.mutualPriority first second) else none

/-- The first two formats that have priority over each other. -/
def mutualPriority? : Option LibraryFlaw := mutualAmong? (priorities formats)

/-- What is wrong with one signature. -/
def signatureFlaw? (signature : Signature) : Option LibraryFlaw :=
  if signature.sequences.isEmpty then some (.noSequence signature.id)
  else signature.sequences.findSome? fun sequence =>
    sequence.flaw?.map (LibraryFlaw.shape signature.id)

/-- The first signature that a format lists and nothing declares. -/
def unresolvedSignature? (format : FileFormat) : Option LibraryFlaw :=
  (format.signatures.find? fun id => !signatures.any (·.id = id)).map
    (LibraryFlaw.unresolvedSignature format.id)

/-- **The first flaw of a library.** -/
def flaw? : Option LibraryFlaw :=
  (firstRepeat? (formats.map FileFormat.id)).map LibraryFlaw.duplicateFormat
  <|> (firstRepeat? (signatures.map Signature.id)).map LibraryFlaw.duplicateSignature
  <|> (priorities formats).findSome? (priorityFlaw? formats)
  <|> mutualPriority? formats
  <|> signatures.findSome? signatureFlaw?
  <|> formats.findSome? (unresolvedSignature? signatures)

/-- Enter a format as an owner of the signature with an id. -/
def enter (format : UInt32) (signatures : List Signature) (id : UInt32) : List Signature :=
  signatures.modify (signatures.findIdx (·.id = id)) (Signature.addOwner format)

/-- Enter a format as an owner of all signatures that it lists. -/
def enterAll (signatures : List Signature) (format : FileFormat) : List Signature :=
  format.signatures.foldl (enter format.id) signatures

/-- **Tell the signatures which formats own them,** one format after the other. -/
def link : List Signature := formats.foldl enterAll signatures

end Checks

/-- The sequences in the order in which they are tried: by anchor, and as declared
under one anchor. -/
def inTrialOrder (sequences : List ByteSequence) : List ByteSequence :=
  sequences.mergeSort fun one other => one.anchor.rank ≤ other.anchor.rank

/-- The signature with its sequences prepared and in trial order. -/
def compile (signature : Signature) : Signature :=
  { signature with sequences := (inTrialOrder signature.sequences).map ByteSequence.prepare }

/-- **Check a library and prepare it for matching.** -/
def prepare (version : String) (formats : List FileFormat) (signatures : List Signature) :
    Except LibraryFlaw Library :=
  match flaw? formats signatures with
  | some flaw => .error flaw
  | none => .ok ⟨version, formats, (link formats (signatures.map Signature.disown)).map compile⟩

/-- The format with an id. -/
def format? (library : Library) (id : UInt32) : Option FileFormat :=
  library.formats.find? (·.id = id)

end Library

end Discern
