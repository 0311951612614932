import Discern.Proofs.Decoder.Base64
import Discern.Proofs.Detection.Outcome
import Discern.Proofs.Stream.Restoration

/-!
# Detection leaves the content intact

A run of detection that comes to layers hands back a stream that shows the content as if
nobody had looked at it: decoded by the decoders of the layers from its first byte to its
last (`content_intact`).  What detectors read, which bytes a replay buffer holds, and the
limits during the run make no difference.

The run keeps decoded views on top of the base stream (`Completes.opened`); it ends with a
rewind without limits, which opens them all anew.
-/

namespace Discern

/-- **A stream on a content:** the content in memory, at any position, or a replay buffer
over a reader, whatever was read and is kept, as long as all of it can be replayed. -/
inductive ByteStream.Holds (content : Bytes) : ByteStream → Prop
  | cursor (position : Nat) : Holds content ⟨Cursor.kind, content, content.drop position⟩
  | buffered {σ : Type} {reader : Reader σ} {buffer : Buffered σ} {fresh : Bytes}
      (shown : reader.Shows buffer.inner (some fresh))
      (whole : content = buffer.kept.toList ++ fresh)
      (inside : buffer.position ≤ buffer.kept.size)
      (replayable : buffer.overflowed = false) : Holds content ⟨Buffered.kind reader, buffer⟩

/-- A stream on a content is restored to it by a rewind. -/
theorem ByteStream.Holds.exists_restores {content : Bytes} {stream : ByteStream}
    (holds : stream.Holds content) :
    ∃ left : stream.State → Bytes → Prop, stream.kind.Restores content left ∧
      ∃ rest, left stream.state rest := by
  cases holds with
  | cursor position => exact ⟨_, Cursor.restores content, _, rfl, rfl⟩
  | @buffered σ reader buffer fresh shown whole inside replayable =>
      exact ⟨_, Buffered.restores reader content, _, inside, fresh, shown, rfl, fun _ => whole⟩

section Reading

variable {σ : Type} {kind : StreamKind σ} {content : Bytes} {left : σ → Bytes → Prop}
  (restores : kind.Restores content left) {limit : Option Nat} {stack : List Decoder}
  {stream : ByteStream}
include restores

/-- A pass that settles a layer leaves views that have been read from. -/
theorem LayerPass.run_reading (detectors : List Detector) (asked : TagSet)
    (reading : Reading kind left limit stack stream) {id : FormatId}
    (result : (run asked detectors stream).result = .ok id) :
    Reading kind left limit stack (run asked detectors stream).stream := by
  obtain ⟨_, -, kept⟩ | ⟨_, _, _, -, -, failed⟩ :=
    run_cases (Reading kind left limit stack)
      (fun probe _ reading rewound =>
        ((reading.run restores.toFollows probe).rewind_of_ok restores rewound).reading)
      detectors asked reading
  · exact kept
  · rw [failed] at result
    cases result

/-- Every view gets its share of any new limit. -/
theorem Reading.setAnyLimit (reading : Reading kind left limit stack stream)
    (next : Option Nat) : Reading kind left next stack (stream.setLimit next) :=
  reading.setLimit restores.toFollows (fun _ _ _ _ => trivial) trivial

/-- The end of a run opens all views anew. -/
theorem DetectionRun.opened_of_finish {last : ByteStream}
    (lifted : Reading kind left none stack (stream.setLimit none))
    (finished : finish stream = .ok last) : Opened kind content left none stack last := by
  have rewound := finish_eq_ok_iff.mp finished
  have again := lifted.rewind_of_ok restores (congrArg Prod.fst rewound)
  rwa [rewound] at again

namespace DetectionRun

variable {enabled : TagSet} {detectors : List Detector} {decoders : DecoderRegistry}
  {recursion : Nat} {detection : Detection}

/-- **A run that comes to layers** hands back the views of their decoders, opened anew and
without limits. -/
theorem Completes.opened
    (completes : Completes enabled detectors decoders limit recursion stream detection)
    (reading : Reading kind left limit stack (stream.setLimit limit)) :
    Opened kind content left none (decoders.unwrapping detection.layers ++ stack)
      detection.stream := by
  induction completes generalizing stack with
  | undecoded settled absent finished =>
      have passed := LayerPass.run_reading restores detectors enabled reading settled
      rw [DecoderRegistry.unwrapping_cons_of_none absent]
      exact opened_of_finish restores (passed.setAnyLimit restores none) finished
  | @bounded stream last id decoder settled found finished =>
      have passed := LayerPass.run_reading restores detectors enabled reading settled
      have below := passed.setAnyLimit restores none
      have view : Reading kind left none (decoder :: stack)
          (((firstPass enabled detectors limit stream).stream.decoded decoder).setLimit none) :=
        .decoded below rfl
      rw [DecoderRegistry.unwrapping_cons found]
      exact opened_of_finish restores view finished
  | @deeper recursion stream id decoder inner settled found _ ih =>
      have passed := LayerPass.run_reading restores detectors enabled reading settled
      have below := passed.setAnyLimit restores (limit.map decoder.outerLimit)
      rw [DecoderRegistry.unwrapping_cons found, List.append_assoc, List.singleton_append]
      exact ih (.decoded below rfl)

end DetectionRun

end Reading

/-- What a stream shows is what is read from it. -/
theorem Detection.content_of_shows {detection : Detection} {inner : Bytes}
    (shown : detection.stream.Shows (some inner)) : detection.content = .ok inner := by
  have whole := (Reader.Shows.readUpTo shown none).1
  rw [content, ByteStream.readUpTo]
  simp only [whole]
  rfl

/-- What a stream does not show to its end cannot be handed back. -/
theorem Detection.content_of_shows_none {detection : Detection}
    (broken : detection.stream.Shows none) : ∃ error, detection.content = .error error := by
  have never := Reader.Shows.not_readUpTo broken
  rw [content, ByteStream.readUpTo]
  cases read : (detection.stream.kind.readUpTo none detection.stream.state).1 with
  | ok bytes => exact (never bytes read).elim
  | error fault => exact ⟨⟨.readingDecoded, fault⟩, rfl⟩

namespace DetectionRun

/-- **Detection leaves the content intact.**  After a run that comes to layers the content
that is handed back is the composition of what the decoders of the layers compute, in the
order of the layers, and reading it fails only if that composition does.  Every layer but
the last has a decoder. -/
theorem content_intact {enabled : TagSet} {detectors : List Detector}
    {decoders : DecoderRegistry} {limit : Option Nat} {recursion : Nat} {stream : ByteStream}
    {content : Bytes} {detection : Detection} {decode : Decoder → Bytes → Option Bytes}
    (computes : ∀ decoder ∈ decoders.decoders, decoder.Computes (decode decoder))
    (holds : stream.Holds content)
    (result : (run enabled detectors decoders limit recursion stream).result = .ok detection) :
    (∀ i id, detection.layers[i]? = some id → i + 1 < detection.layers.length →
      ∃ decoder, decoders.get? id.tag = some decoder) ∧
    (∀ inner, (decoders.unwrapping detection.layers).foldrM decode content = some inner →
      detection.content = .ok inner) ∧
    ((decoders.unwrapping detection.layers).foldrM decode content = none →
      (∀ decoder ∈ (decoders.unwrapping detection.layers).dropLast, decoder.Strict) →
      ∃ error, detection.content = .error error) := by
  have completes := Completes.of_result result
  obtain ⟨left, restores, rest, here⟩ := holds.exists_restores
  have start : Reading stream.kind left limit [] (stream.setLimit limit) :=
    .base (restores.limit trivial here)
  have opened := completes.opened restores start
  rw [List.append_nil] at opened
  have shown : ∀ s, left s content → ByteStream.Shows ⟨stream.kind, s⟩ (some content) :=
    fun _ first => restores.shows first
  have registered : ∀ decoder ∈ decoders.unwrapping detection.layers,
      decoder.Computes (decode decoder) := by
    intro decoder member
    obtain ⟨id, -, found⟩ := List.mem_filterMap.mp (List.mem_reverse.mp member)
    exact computes decoder (DecoderRegistry.mem_of_get? found)
  refine ⟨fun i id layer early => completes.decoded_before_last layer early, ?_, ?_⟩
  · intro inner composed
    exact Detection.content_of_shows (opened.shows shown registered composed)
  · intro failed strict
    obtain ⟨s, first, views⟩ := opened_none_iff.mp opened
    have innermost := Decoder.Computes.shows_foldr_none registered strict (shown s first) failed
    rw [← views] at innermost
    exact Detection.content_of_shows_none innermost

/-- Nested base64 comes back decoded as often as it was detected. -/
theorem content_intact_nestedBase64 :
    ∃ detection, (run (.ofList [.base64]) [base64Finder] (.register .empty .base64) none 1
        (.ofBytes nestedBase64)).result = .ok detection ∧
      (∀ i id, detection.layers[i]? = some id → i + 1 < detection.layers.length →
        ∃ decoder, (DecoderRegistry.register .empty .base64).get? id.tag = some decoder) ∧
      (∀ inner, ((DecoderRegistry.register .empty .base64).unwrapping detection.layers).foldrM
          (fun _ text => Base64.decode? (text.filter (!Base64.isBlankByte ·))) nestedBase64 =
            some inner → detection.content = .ok inner) ∧
      (((DecoderRegistry.register .empty .base64).unwrapping detection.layers).foldrM
          (fun _ text => Base64.decode? (text.filter (!Base64.isBlankByte ·))) nestedBase64 =
            none →
        (∀ decoder ∈
            ((DecoderRegistry.register .empty .base64).unwrapping detection.layers).dropLast,
          decoder.Strict) →
        ∃ error, detection.content = .error error) := by
  have computes : ∀ decoder ∈ (DecoderRegistry.register .empty .base64).decoders,
      decoder.Computes fun text => Base64.decode? (text.filter (!Base64.isBlankByte ·)) := by
    intro decoder member
    obtain rfl : decoder = .base64 := List.mem_singleton.mp member
    exact Decoder.base64_computes
  have unknown : (DecoderRegistry.register .empty .base64).get? .unknown = none := by decide
  have first : (Cursor.start nestedBase64).content = nestedBase64 ∧
      (Cursor.start nestedBase64).rest = nestedBase64 := ⟨rfl, rfl⟩
  obtain ⟨detection, result, -⟩ := run_behind (Cursor.replays nestedBase64 _) unknown
    (.ofList [.base64]) [base64Finder] 1 [] (fun _ member => nomatch member)
    (.ofBytes nestedBase64) fun _ _ => .base first
  exact ⟨detection, result, content_intact computes (.cursor 0) result⟩

end DetectionRun

end Discern
