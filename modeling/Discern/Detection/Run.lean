import Discern.Decoder.Registry
import Discern.Detection.Detector
import Discern.Stream.Decoded
import Discern.Stream.Error

/-!
# Detecting layers

Content is detected layer by layer.  A layer is settled by a pass of the detectors;
if there is a decoder for its format, the next layer is the decoded content.

In a pass the detectors are asked in order, the first for all enabled tags.  A
detector that declares none of the tags that are left is passed over.  One that does
not settle the layer, because it finds nothing, fails, or answers what it was not
asked for, takes the tags it declares out of the rest of the pass.
-/

namespace Discern

/-- **A detector that was asked,** for which tags, and what it answered. -/
structure DetectorCall where
  detector : String
  asked : TagSet
  outcome : Except Fault FormatId

/-- **A pass of the detectors over one layer.** -/
structure LayerPass where
  calls : List DetectorCall
  result : Except StreamError FormatId
  stream : ByteStream

namespace LayerPass

/-- The answer of a detector where it settles the layer. -/
def settles? (asked : TagSet) : Except Fault FormatId → Option FormatId
  | .ok id => if id.isUnknown then none else if asked.contains id.tag then some id else none
  | .error _ => none

/-- **Pass the detectors over a stream.**  The stream is rewound after each one. -/
def run (asked : TagSet) : List Detector → ByteStream → LayerPass
  | [], stream => ⟨[], .ok .unknown, stream⟩
  | detector :: rest, stream =>
    if asked.isEmpty then ⟨[], .ok .unknown, stream⟩
    else if !detector.declared.intersects asked then run asked rest stream
    else
      let (outcome, stream) := (detector.look asked).run stream
      let call : DetectorCall := ⟨detector.name, asked, outcome⟩
      match stream.rewind with
      | (.error fault, stream) => ⟨[call], .error ⟨.resettingAfterDetector, fault⟩, stream⟩
      | (.ok (), stream) =>
        match settles? asked outcome with
        | some id => ⟨[call], .ok id, stream⟩
        | none =>
          let pass := run (asked.removeAll detector.declared) rest stream
          { pass with calls := call :: pass.calls }

end LayerPass

/-- **The layers of a content,** the outermost first.  The last is unknown where the
innermost content was not recognised.  The stream shows the content inside the last
layer that could be decoded, from its first byte on. -/
structure Detection where
  layers : List FormatId
  stream : ByteStream

namespace Detection

/-- The layers that were recognised. -/
def identified (d : Detection) : List FormatId := d.layers.filter (!·.isUnknown)

/-- The first layer, if it was recognised. -/
def outermost? (d : Detection) : Option FormatId :=
  match d.layers with
  | id :: _ => if id.isUnknown then none else some id
  | [] => none

/-- The last layer that was recognised. -/
def innermost? (d : Detection) : Option FormatId := d.identified.getLast?

/-- **The innermost content.** -/
def content (d : Detection) : Except StreamError Bytes :=
  (d.stream.readUpTo none).1.mapError (StreamError.mk .readingDecoded)

end Detection

/-- **A run of the detectors,** with every call in order. -/
structure DetectionRun where
  calls : List DetectorCall
  result : Except StreamError Detection

namespace DetectionRun

/-- The end of a run: the limits are lifted and the stream is rewound. -/
def finish (stream : ByteStream) : Except StreamError ByteStream :=
  match (stream.setLimit none).rewind with
  | (.ok (), stream) => .ok stream
  | (.error fault, _) => .error ⟨.resettingDecoded, fault⟩

/-- **Detect at most `recursion + 1` layers** of a stream. -/
def run (enabled : TagSet) (detectors : List Detector) (decoders : DecoderRegistry)
    (limit : Option Nat) : (recursion : Nat) → ByteStream → DetectionRun
  | recursion, stream =>
    let pass := LayerPass.run enabled detectors (stream.setLimit limit)
    match pass.result with
    | .error e => ⟨pass.calls, .error e⟩
    | .ok id =>
      match decoders.get? id.tag with
      | none => ⟨pass.calls, (finish pass.stream).map (Detection.mk [id])⟩
      | some decoder =>
        let inner := pass.stream.decoded decoder
        match recursion with
        | 0 => ⟨pass.calls, (finish inner).map (Detection.mk [id])⟩
        | recursion + 1 =>
          let deeper := run enabled detectors decoders limit recursion inner
          ⟨pass.calls ++ deeper.calls,
            deeper.result.map fun d => { d with layers := id :: d.layers }⟩

end DetectionRun

end Discern
