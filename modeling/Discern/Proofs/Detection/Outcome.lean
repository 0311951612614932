import Discern.Proofs.Detection.Layers

/-!
# Runs that come to layers

A run of detection either ends with an error or comes to layers.  `Completes` says what a
run has done that comes to layers, on any stream, whether it can be replayed or not; facts
about the layers and about the stream that is handed back are inductions on it.

Every layer but the last has a registered decoder (`Completes.decoded_before_last`).  So an
unknown layer is the last one for all registries without a decoder for unknown content, and
only for these (`unknown_last_iff`).
-/

namespace Discern

namespace DetectionRun

section Completes

variable (enabled : TagSet) (detectors : List Detector) (decoders : DecoderRegistry)
  (limit : Option Nat)

/-- The pass over the outermost layer of a stream. -/
abbrev firstPass (stream : ByteStream) : LayerPass :=
  LayerPass.run enabled detectors (stream.setLimit limit)

/-- **What a run has done that comes to layers.** -/
inductive Completes : Nat → ByteStream → Detection → Prop
  /-- The last layer has no decoder. -/
  | undecoded {recursion : Nat} {stream last : ByteStream} {id : FormatId}
      (settled : (firstPass enabled detectors limit stream).result = .ok id)
      (absent : decoders.get? id.tag = none)
      (finished : finish (firstPass enabled detectors limit stream).stream = .ok last) :
      Completes recursion stream ⟨[id], last⟩
  /-- The last layer is decoded, and no more layers may follow. -/
  | bounded {stream last : ByteStream} {id : FormatId} {decoder : Decoder}
      (settled : (firstPass enabled detectors limit stream).result = .ok id)
      (found : decoders.get? id.tag = some decoder)
      (finished :
        finish ((firstPass enabled detectors limit stream).stream.decoded decoder) = .ok last) :
      Completes 0 stream ⟨[id], last⟩
  /-- A layer is decoded, and the run goes on with what is inside. -/
  | deeper {recursion : Nat} {stream : ByteStream} {id : FormatId} {decoder : Decoder}
      {inner : Detection}
      (settled : (firstPass enabled detectors limit stream).result = .ok id)
      (found : decoders.get? id.tag = some decoder)
      (inside : Completes recursion
        ((firstPass enabled detectors limit stream).stream.decoded decoder) inner) :
      Completes (recursion + 1) stream ⟨id :: inner.layers, inner.stream⟩

variable {enabled detectors decoders limit} {recursion : Nat} {stream : ByteStream}
  {detection : Detection}

/-- A run that completes has the result that it completes with. -/
theorem Completes.result
    (completes : Completes enabled detectors decoders limit recursion stream detection) :
    (run enabled detectors decoders limit recursion stream).result = .ok detection := by
  induction completes with
  | undecoded settled absent finished =>
      rw [run_eq_of_undecoded settled absent, finished]
      rfl
  | bounded settled found finished =>
      rw [run_zero_of_decoded settled found, finished]
      rfl
  | deeper settled found _ ih =>
      rw [run_succ_of_decoded settled found, ih]
      rfl

/-- A mapped result that succeeds comes from one that does. -/
private theorem exists_of_map_eq_ok {ε α β : Type*} {x : Except ε α} {f : α → β} {b : β}
    (mapped : x.map f = .ok b) : ∃ a, x = .ok a ∧ f a = b := by
  cases x with
  | error e => cases mapped
  | ok a => exact ⟨a, rfl, Except.ok.inj mapped⟩

/-- A run that succeeds behind a layer without a decoder completes with this layer. -/
theorem Completes.of_undecoded {id : FormatId}
    (settled : (firstPass enabled detectors limit stream).result = .ok id)
    (absent : decoders.get? id.tag = none)
    (result : (run enabled detectors decoders limit recursion stream).result = .ok detection) :
    Completes enabled detectors decoders limit recursion stream detection := by
  rw [run_eq_of_undecoded settled absent] at result
  obtain ⟨last, finished, rfl⟩ := exists_of_map_eq_ok result
  exact .undecoded settled absent finished

/-- A run that succeeds has settled its first layer. -/
theorem exists_firstPass_of_result
    (result : (run enabled detectors decoders limit recursion stream).result = .ok detection) :
    ∃ id, (firstPass enabled detectors limit stream).result = .ok id := by
  cases passed : (firstPass enabled detectors limit stream).result with
  | error error =>
      cases recursion <;> rw [run] at result <;> simp only [passed, reduceCtorEq] at result
  | ok id => exact ⟨id, rfl⟩

/-- Nothing else leads to layers. -/
theorem Completes.of_result
    (result : (run enabled detectors decoders limit recursion stream).result = .ok detection) :
    Completes enabled detectors decoders limit recursion stream detection := by
  induction recursion generalizing stream detection with
  | zero =>
      obtain ⟨id, settled⟩ := exists_firstPass_of_result result
      cases found : decoders.get? id.tag with
      | none => exact .of_undecoded settled found result
      | some decoder =>
          rw [run_zero_of_decoded settled found] at result
          obtain ⟨last, finished, rfl⟩ := exists_of_map_eq_ok result
          exact .bounded settled found finished
  | succ recursion ih =>
      obtain ⟨id, settled⟩ := exists_firstPass_of_result result
      cases found : decoders.get? id.tag with
      | none => exact .of_undecoded settled found result
      | some decoder =>
          rw [run_succ_of_decoded settled found] at result
          obtain ⟨inner, inside, rfl⟩ := exists_of_map_eq_ok result
          exact .deeper settled found (ih inside)

/-- What is inside a layer was decoded, so the layer has a decoder. -/
theorem Completes.decoded_before_last
    (completes : Completes enabled detectors decoders limit recursion stream detection)
    {i : Nat} {id : FormatId} (layer : detection.layers[i]? = some id)
    (early : i + 1 < detection.layers.length) :
    ∃ decoder, decoders.get? id.tag = some decoder := by
  induction completes generalizing i with
  | undecoded =>
      rw [List.length_singleton] at early
      omega
  | bounded =>
      rw [List.length_singleton] at early
      omega
  | @deeper _ _ outer decoder inner _ found _ ih =>
      cases i with
      | zero =>
          obtain rfl : outer = id := by simpa using layer
          exact ⟨decoder, found⟩
      | succ i =>
          rw [List.getElem?_cons_succ] at layer
          rw [List.length_cons] at early
          exact ih layer (by omega)

end Completes

/-- A run that begins at content in memory, asks no detector, and may unwrap one layer. -/
private theorem completes_of_decoded_unknown {decoders : DecoderRegistry} {decoder : Decoder}
    (found : decoders.get? .unknown = some decoder) (content : Bytes) :
    ∃ last, Completes .empty [] decoders none 1 (.ofBytes content) ⟨[.unknown, .unknown], last⟩ :=
  ⟨_, .deeper rfl found (.bounded rfl found rfl)⟩

/-- **An unknown layer is the last one** in all runs with a registry if and only if the
registry has no decoder for unknown content. -/
theorem unknown_last_iff (decoders : DecoderRegistry) :
    (∀ (enabled : TagSet) (detectors : List Detector) (limit : Option Nat) (recursion : Nat)
        (stream : ByteStream) (detection : Detection),
      (run enabled detectors decoders limit recursion stream).result = .ok detection →
      ∀ i id, detection.layers[i]? = some id → i + 1 < detection.layers.length →
        id.isUnknown = false) ↔
      decoders.get? .unknown = none := by
  constructor
  · intro unknownLast
    cases found : decoders.get? .unknown with
    | none => rfl
    | some decoder =>
        obtain ⟨last, completes⟩ := completes_of_decoded_unknown found []
        have identified := unknownLast _ _ _ _ _ _ completes.result 0 .unknown rfl Nat.one_lt_two
        cases identified
  · intro absent enabled detectors limit recursion stream detection result i id layer early
    obtain ⟨decoder, found⟩ := (Completes.of_result result).decoded_before_last layer early
    rw [FormatId.isUnknown, FormatTag.isUnknown, beq_eq_false_iff_ne]
    intro same
    rw [same, absent] at found
    cases found

/-- A registry whose one decoder is for unknown content. -/
def unknownDecoded : DecoderRegistry :=
  .register .empty { Decoder.base64 with tag := .unknown }

/-- Behind an unknown layer with a decoder comes a further layer. -/
theorem goes_on_behind_unknown :
    ∃ detection, (run .empty [] unknownDecoded none 1 (.ofBytes [0x68, 0x69])).result =
        .ok detection ∧
      ∃ i id, detection.layers[i]? = some id ∧ i + 1 < detection.layers.length ∧
        id.isUnknown = true := by
  have found : unknownDecoded.get? .unknown = some { Decoder.base64 with tag := .unknown } := rfl
  obtain ⟨last, completes⟩ := completes_of_decoded_unknown found [0x68, 0x69]
  exact ⟨_, completes.result, 0, .unknown, rfl, Nat.one_lt_two, rfl⟩

end DetectionRun

end Discern
