import Discern.Detection.Run

/-!
# Strategies

A strategy is everything a run of detection needs besides the stream and the tags to
look for.  It is put together by a `StrategyBuilder`, which can name detectors to leave
out of the next strategy.
-/

namespace Discern

/-- **Detectors in the order in which they are asked,** decoders, and bounds. -/
structure Strategy where
  detectors : List Detector
  decoders : DecoderRegistry
  maxRecursion : UInt64
  readLimit : Option UInt64

namespace Strategy

/-- The layers beyond the first that are detected by default. -/
def defaultRecursion : UInt64 := 8

/-- Every format that some detector can report. -/
def declared (s : Strategy) : TagSet :=
  s.detectors.foldl (fun tags detector => tags.union detector.declared) .empty

/-- **Detect the layers of a stream.** -/
def run (s : Strategy) (enabled : TagSet) (stream : ByteStream) : DetectionRun :=
  .run enabled s.detectors s.decoders (s.readLimit.map UInt64.toNat) s.maxRecursion.toNat stream

end Strategy

/-- **A strategy in the making.** -/
structure StrategyBuilder where
  detectors : List Detector
  decoders : DecoderRegistry
  disabled : List String
  maxRecursion : UInt64
  readLimit : Option UInt64

namespace StrategyBuilder

def fresh : StrategyBuilder :=
  { detectors := [], decoders := .empty, disabled := [],
    maxRecursion := Strategy.defaultRecursion, readLimit := none }

/-- Ask a detector after the others. -/
def detector (b : StrategyBuilder) (d : Detector) : StrategyBuilder :=
  { b with detectors := b.detectors ++ [d] }

/-- Leave the detectors of a name out of the next strategy. -/
def withoutDetector (b : StrategyBuilder) (name : String) : StrategyBuilder :=
  { b with disabled := name :: b.disabled }

def withDefaultDecoders (b : StrategyBuilder) : StrategyBuilder :=
  { b with decoders := b.decoders.addAll .defaults }

def decoder (b : StrategyBuilder) (d : Decoder) : StrategyBuilder :=
  { b with decoders := b.decoders.register d }

def withoutDecoder (b : StrategyBuilder) (tag : FormatTag) : StrategyBuilder :=
  { b with decoders := b.decoders.remove tag }

/-- **The strategy, and the builder after it,** which has forgotten the names of
detectors to leave out. -/
def build (b : StrategyBuilder) : Strategy × StrategyBuilder :=
  ({ detectors := b.detectors.filter fun d => !b.disabled.contains d.name
     decoders := b.decoders, maxRecursion := b.maxRecursion, readLimit := b.readLimit },
    { b with disabled := [] })

end StrategyBuilder

end Discern
