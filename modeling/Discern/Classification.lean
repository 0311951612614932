import Discern.Classification.Resolution

/-!
# Classifying a content

`Library.classify` evaluates the signatures of a library on a content, resolves
the raw hits with the name of the file, and lists them best first.
-/

namespace Discern

/-- **Outcome of a classification.** -/
inductive Status where
  | positive
  | tentative
  | unidentified
deriving DecidableEq, Inhabited

/-- **The final hits for a content,** the best first. -/
structure Classification where
  hits : List Hit
  status : Status
deriving DecidableEq, Inhabited

namespace Classification

/-- Whether one hit may stand before another: the better confidence first, and of
two that are equally sure the one without a doubt. -/
def precedes (a b : Hit) : Bool :=
  a.confidence.rank < b.confidence.rank ||
    (a.confidence.rank == b.confidence.rank && (a.warning.isNone || b.warning.isSome))

/-- What the best hit says about the content. -/
def statusOf : List Hit → Status
  | [] => .unidentified
  | hit :: _ => if hit.isPositive then .positive else .tentative

/-- Order hits by confidence and doubt; hits that are equal in both stay in their
order. -/
def ofHits (hits : List Hit) : Classification :=
  let sorted := hits.mergeSort precedes
  ⟨sorted, statusOf sorted⟩

def isIdentified (c : Classification) : Bool := c.status != .unidentified

def formatIds (c : Classification) : List FormatId := c.hits.map Hit.formatId

def best? (c : Classification) : Option Hit := c.hits.head?

end Classification

namespace Library

/-- The signatures that a content complies with. -/
def compliant (library : Library) (content : Bytes) : List Signature :=
  library.signatures.filter (·.accepts content)

/-- **The raw hits on a content:** one for each owner of each compliant signature. -/
def rawHits (library : Library) (content : Bytes) : List Hit :=
  (library.compliant content).flatMap fun signature =>
    (signature.owners.filterMap library.format?).map (Hit.positive · signature.specific)

/-- **Classify a content** with the name of its file. -/
def classify (library : Library) (content : Bytes) (name : Option String) : Classification :=
  .ofHits (Resolution.resolve library (library.rawHits content) name)

end Library

end Discern
