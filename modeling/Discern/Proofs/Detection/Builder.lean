import Discern.Detection.Strategy
import Mathlib.Data.List.Induction

/-!
# Building strategies

A builder is brought into its state by a list of calls, earlier builds among them.  It keeps all
that was set, except for the names of detectors to leave out, which it forgets with each build.

The state is read off the calls (`StrategyBuilder.detectors_after`,
`StrategyBuilder.disabled_after`).  A second build in a row therefore differs from the first one
by the detectors that the first one left out, and by nothing else
(`StrategyBuilder.builtAgain_eq_iff`).
-/

namespace Discern

/-- **A call of a builder.** -/
inductive BuilderCall where
  | detector (d : Detector)
  | withoutDetector (name : String)
  | withDefaultDecoders
  | decoder (d : Decoder)
  | withoutDecoder (tag : FormatTag)
  | maxRecursion (bound : UInt64)
  | readLimit (limit : Option UInt64)
  | build

namespace BuilderCall

/-- The detector that a call adds. -/
def detector? : BuilderCall → Option Detector
  | detector d => some d
  | _ => none

/-- The name of detectors that a call wants to be left out. -/
def name? : BuilderCall → Option String
  | withoutDetector name => some name
  | _ => none

/-- Whether a request builds. -/
def isBuild : BuilderCall → Bool
  | build => true
  | _ => false

/-- The detectors that calls add, in their order. -/
def added (calls : List BuilderCall) : List Detector := calls.filterMap detector?

/-- The names that were to be left out since the last build, the latest first. -/
def leftOut (calls : List BuilderCall) : List String :=
  (calls.reverse.takeWhile (!·.isBuild)).filterMap name?

end BuilderCall

namespace StrategyBuilder

open BuilderCall

/-- **A builder after a call.** -/
def call (b : StrategyBuilder) : BuilderCall → StrategyBuilder
  | .detector d => b.detector d
  | .withoutDetector name => b.withoutDetector name
  | .withDefaultDecoders => b.withDefaultDecoders
  | .decoder d => b.decoder d
  | .withoutDecoder tag => b.withoutDecoder tag
  | .maxRecursion bound => { b with maxRecursion := bound }
  | .readLimit limit => { b with readLimit := limit }
  | .build => b.build.2

/-- **A fresh builder after a list of calls.** -/
def after (calls : List BuilderCall) : StrategyBuilder := calls.foldl call fresh

/-- The strategy that is built behind a list of calls. -/
def built (calls : List BuilderCall) : Strategy := (after calls).build.1

/-- The strategy that is built behind a list of calls and one more build. -/
def builtAgain (calls : List BuilderCall) : Strategy := built (calls ++ [.build])

variable (calls : List BuilderCall)

/-- The last request is carried out on what those before it have made. -/
theorem after_concat (c : BuilderCall) : after (calls ++ [c]) = (after calls).call c := by
  rw [after, List.foldl_append]
  rfl

/-- A builder keeps every detector that was ever added. -/
theorem detectors_after : (after calls).detectors = added calls := by
  induction calls using List.reverseRecOn with
  | nil => rfl
  | append_singleton calls c ih =>
      rw [after_concat, added, List.filterMap_append, ← added, ← ih]
      cases c with
      | detector d => rfl
      | _ => exact (List.append_nil _).symm

/-- A builder knows the names that were to be left out since the last build, and no others. -/
theorem disabled_after : (after calls).disabled = leftOut calls := by
  induction calls using List.reverseRecOn with
  | nil => rfl
  | append_singleton calls c ih =>
      have latest : leftOut (calls ++ [c]) =
          if c.isBuild then [] else c.name?.toList ++ leftOut calls := by
        rw [leftOut, List.reverse_concat, List.takeWhile_cons]
        cases c <;> rfl
      rw [after_concat, latest, ← ih]
      cases c <;> rfl

/-- **Building twice.**  Two builds in a row give strategies with the same decoders and bounds.
The first one is without the detectors whose names were to be left out since the build before,
and the second one is with them.  So the two are the same if and only if no detector with such
a name was ever added. -/
theorem builtAgain_eq_iff :
    (built calls).detectors = (added calls).filter (·.name ∉ leftOut calls) ∧
      (builtAgain calls).detectors = added calls ∧
      (builtAgain calls).decoders = (built calls).decoders ∧
      (builtAgain calls).maxRecursion = (built calls).maxRecursion ∧
      (builtAgain calls).readLimit = (built calls).readLimit ∧
      (builtAgain calls = built calls ↔ ∀ d ∈ added calls, d.name ∉ leftOut calls) := by
  have first : (built calls).detectors = (added calls).filter (·.name ∉ leftOut calls) := by
    rw [← detectors_after, ← disabled_after]
    refine List.filter_congr fun d _ => ?_
    rw [List.contains_eq_mem, decide_not]
  have again : builtAgain calls = ⟨added calls, (built calls).decoders,
      (built calls).maxRecursion, (built calls).readLimit⟩ := by
    rw [builtAgain, built, after_concat, ← detectors_after]
    -- The builder behind a build has no names left.
    have all : (after calls).detectors.filter (fun d => !([] : List String).contains d.name) =
        (after calls).detectors := List.filter_eq_self.mpr fun _ _ => rfl
    exact congrArg (fun detectors => (⟨detectors, _, _, _⟩ : Strategy)) all
  rw [again]
  refine ⟨first, rfl, rfl, rfl, rfl, ?_⟩
  constructor
  · intro same d member
    have kept : added calls = (built calls).detectors := congrArg Strategy.detectors same
    rw [first, eq_comm, List.filter_eq_self] at kept
    exact of_decide_eq_true (kept d member)
  · intro clear
    have kept : (built calls).detectors = added calls := by
      rw [first, List.filter_eq_self]
      exact fun d member => decide_eq_true (clear d member)
    rw [← kept]

/-- A detector is added and then named to be left out. -/
def namedCalls : List BuilderCall :=
  [.detector (.ofTable ⟨[⟨.ofString "zip", .literal [0x50, 0x4B]⟩]⟩),
    .withoutDetector "ModuleDetector"]

/-- **A build changes the builder:** the detector that the first strategy leaves out stands in
the second one. -/
theorem left_out_once :
    (built namedCalls).detectors.map Detector.name = [] ∧
      (builtAgain namedCalls).detectors.map Detector.name = ["ModuleDetector"] ∧
      (builtAgain namedCalls).detectors ≠ (built namedCalls).detectors := by
  have first : (built namedCalls).detectors.map Detector.name = [] := by decide
  have second : (builtAgain namedCalls).detectors.map Detector.name = ["ModuleDetector"] := by
    decide
  refine ⟨first, second, fun same => ?_⟩
  rw [same, first] at second
  cases second

end StrategyBuilder

end Discern
