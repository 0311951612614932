import Discern.Stream.Fault

/-!
# Stream errors

A fault says what went wrong; a `StreamError` adds what was being done.
-/

namespace Discern

/-- **What was being done** when a fault came up. -/
inductive Activity where
  | readingSource
  | readingDecoded
  | resettingDecoded
  | resettingAfterDetector
deriving DecidableEq, Inhabited

def Activity.display : Activity → String
  | readingSource => "reading source"
  | readingDecoded => "reading decoded content"
  | resettingDecoded => "resetting decoded stream"
  | resettingAfterDetector => "resetting stream after detector"

/-- **A fault that ends an identification.** -/
structure StreamError where
  activity : Activity
  fault : Fault
deriving DecidableEq, Inhabited

def StreamError.message (e : StreamError) : String :=
  s!"Stream error while {e.activity.display}"

end Discern
