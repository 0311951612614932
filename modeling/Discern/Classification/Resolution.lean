import Discern.Classification.Hit
import Discern.Library

/-!
# Resolving hits

The raw hits on a content become its final hits in three steps.  Hits on one
format are merged into the first of them, with the best confidence among them.
Hits on formats that another hit format has priority over are dropped.  Then the
extension of the file speaks: it puts a doubt on positive hits whose format does
not declare it, and where no hit is positive it suggests the formats that have no
signatures.
-/

namespace Discern

/-- **Extension of a file name:** what follows its last dot, unless that is empty
or a path separator comes after the dot. -/
def fileExtension? (name : String) : Option String :=
  let tail := name.toList.reverse.takeWhile (· ≠ '.')
  if tail.length = name.toList.length then none
  else if tail.isEmpty || tail.any (fun c => c == '/' || c == '\\') then none
  else some (String.ofList tail.reverse)

namespace Resolution

/-- Take over the confidence of a hit on the same format if it is better. -/
def upgrade (hit new : Hit) : Hit :=
  if new.confidence.rank < hit.confidence.rank then
    { hit with confidence := new.confidence, specific := new.specific }
  else hit

/-- Add a hit to hits on pairwise different formats. -/
def merge (hits : List Hit) (new : Hit) : List Hit :=
  if hits.any (·.format = new.format) then
    hits.map fun hit => if hit.format = new.format then upgrade hit new else hit
  else hits ++ [new]

/-- **One hit per format,** where it was found first. -/
def deduplicate (hits : List Hit) : List Hit := hits.foldl merge []

/-- The formats that the formats of some hits have priority over. -/
def dominated (library : Library) (hits : List Hit) : List UInt32 :=
  hits.flatMap fun hit =>
    match library.format? hit.format with
    | some format => format.hasPriorityOver
    | none => []

/-- **Drop the hits that another hit has priority over.** -/
def prune (library : Library) (hits : List Hit) : List Hit :=
  hits.filter fun hit => !(dominated library hits).contains hit.format

/-- Whether the format of a hit declares an extension. -/
def declares (library : Library) (hit : Hit) (ext : String) : Bool :=
  match library.format? hit.format with
  | some format => format.hasExtension ext
  | none => false

/-- The hits that an extension alone suggests. -/
def suggested (library : Library) (ext : String) : List Hit :=
  (library.formats.filter fun format => format.isExtensionOnly && format.hasExtension ext).map
    Hit.tentative

/-- **Compare the hits with the extension of the file.**  Without an extension all
hits are doubted. -/
def corroborate (library : Library) (hits : List Hit) : Option String → List Hit
  | none => hits.map Hit.doubted
  | some ext =>
    if hits.any Hit.isPositive then
      hits.map fun hit => if declares library hit ext then hit else hit.doubted
    else hits ++ suggested library ext

/-- **The final hits** for raw hits and the name of a file. -/
def resolve (library : Library) (hits : List Hit) (name : Option String) : List Hit :=
  corroborate library (prune library (deduplicate hits)) (name.bind fileExtension?)

end Resolution

end Discern
