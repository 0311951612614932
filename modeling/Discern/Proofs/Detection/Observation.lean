import Discern.Proofs.Detection.Heedlessness

/-!
# Runs over observers

A detector has to read in order to answer.  An `Observer` need not: it answers about a stream as
it pleases and says how it leaves it.  Detectors are observers (`Detector.observer`), and a run
over them as observers is their run (`DetectionRun.observe_observer`).  The others serve to
compare with: what would a run come to if a detector knew its answers without reading?

A run over observers that leave streams as looks do comes to layers on every stream that can be
rewound (`DetectionRun.observe_ok_of_rewinds`).
-/

namespace Discern

/-- **A detector as a run sees it:** asked for some tags, it answers about a stream and leaves
it behind. -/
structure Observer where
  name : String
  declared : TagSet
  look : TagSet → ByteStream → Except Fault FormatId × ByteStream

/-- A detector answers by taking its look. -/
def Detector.observer (detector : Detector) : Observer where
  name := detector.name
  declared := detector.declared
  look asked stream := (detector.look asked).run stream

/-- **Pass observers over a stream,** as `LayerPass.run` does with detectors. -/
def LayerPass.observe (asked : TagSet) : List Observer → ByteStream → LayerPass
  | [], stream => ⟨[], .ok .unknown, stream⟩
  | observer :: rest, stream =>
    if asked.isEmpty then ⟨[], .ok .unknown, stream⟩
    else if !observer.declared.intersects asked then observe asked rest stream
    else
      let (outcome, stream) := observer.look asked stream
      let call : DetectorCall := ⟨observer.name, asked, outcome⟩
      match stream.rewind with
      | (.error fault, stream) => ⟨[call], .error ⟨.resettingAfterDetector, fault⟩, stream⟩
      | (.ok (), stream) =>
        match settles? asked outcome with
        | some id => ⟨[call], .ok id, stream⟩
        | none =>
          let pass := observe (asked.removeAll observer.declared) rest stream
          { pass with calls := call :: pass.calls }

/-- **Detect at most `recursion + 1` layers** with observers, as `DetectionRun.run` does with
detectors. -/
def DetectionRun.observe (enabled : TagSet) (observers : List Observer)
    (decoders : DecoderRegistry) (limit : Option Nat) :
    (recursion : Nat) → ByteStream → DetectionRun
  | recursion, stream =>
    let pass := LayerPass.observe enabled observers (stream.setLimit limit)
    match pass.result with
    | .error e => ⟨pass.calls, .error e⟩
    | .ok id =>
      match decoders.get? id.tag with
      | none => ⟨pass.calls, (finish pass.stream).map (Detection.mk [id])⟩
      | some decoder =>
        let inner := pass.stream.decoded decoder
        match recursion with
        | 0 => ⟨pass.calls, (finish inner).map (Detection.mk [id])⟩
        | recursion + 1 =>
          let deeper := observe enabled observers decoders limit recursion inner
          ⟨pass.calls ++ deeper.calls,
            deeper.result.map fun d => { d with layers := id :: d.layers }⟩

/-- A pass of detectors is a pass of what observes in their stead. -/
theorem LayerPass.observe_observer (detectors : List Detector) (asked : TagSet)
    (stream : ByteStream) :
    observe asked (detectors.map Detector.observer) stream = run asked detectors stream := by
  induction detectors generalizing asked stream with
  | nil => rfl
  | cons detector rest ih =>
      rw [List.map_cons, observe, run]
      simp only [ih]
      rfl

/-- **A run over detectors as observers** is their run. -/
theorem DetectionRun.observe_observer (enabled : TagSet) (detectors : List Detector)
    (decoders : DecoderRegistry) (limit : Option Nat) (recursion : Nat) (stream : ByteStream) :
    observe enabled (detectors.map Detector.observer) decoders limit recursion stream =
      run enabled detectors decoders limit recursion stream := by
  induction recursion generalizing stream with
  | zero =>
      rewrite [observe, run, LayerPass.observe_observer]
      cases (LayerPass.run enabled detectors (stream.setLimit limit)).result with
      | error error => rfl
      | ok id => cases found : decoders.get? id.tag <;> simp only [found]
  | succ recursion ih =>
      rewrite [observe, run, LayerPass.observe_observer]
      cases (LayerPass.run enabled detectors (stream.setLimit limit)).result with
      | error error => rfl
      | ok id => cases found : decoders.get? id.tag <;> simp only [found, ih]

namespace LayerPass

section Step

variable {asked : TagSet} {observer : Observer} {rest : List Observer}
  {stream after fresh : ByteStream} {outcome : Except Fault FormatId}

/-- Where no tag is left no observer is asked. -/
theorem observe_of_isEmpty (nothing : asked.isEmpty = true) (observers : List Observer) :
    observe asked observers stream = ⟨[], .ok .unknown, stream⟩ := by
  cases observers with
  | nil => rfl
  | cons observer rest => rw [observe, if_pos nothing]

/-- An observer of other tags is passed over. -/
theorem observe_cons_of_apart (apart : observer.declared.intersects asked = false) :
    observe asked (observer :: rest) stream = observe asked rest stream := by
  by_cases nothing : asked.isEmpty = true
  · rw [observe_of_isEmpty nothing, observe_of_isEmpty nothing]
  · rw [observe, if_neg nothing]
    simp only [apart, Bool.not_false, ↓reduceIte]

variable (meets : observer.declared.intersects asked = true)
  (looked : observer.look asked stream = (outcome, after))
  (rewound : after.rewind = (.ok (), fresh))
include meets looked rewound

/-- An answer that settles the layer ends the pass. -/
theorem observe_cons_of_settled {id : FormatId} (settled : settles? asked outcome = some id) :
    observe asked (observer :: rest) stream =
      ⟨[⟨observer.name, asked, outcome⟩], .ok id, fresh⟩ := by
  rw [observe, TagSet.isEmpty_of_intersects meets]
  simp only [meets, Bool.not_true, Bool.false_eq_true, ↓reduceIte, looked, rewound, settled]

/-- Any other answer leaves the tags that the observer does not declare to those behind it. -/
theorem observe_cons_of_useless (useless : settles? asked outcome = none) :
    observe asked (observer :: rest) stream =
      ⟨⟨observer.name, asked, outcome⟩ ::
          (observe (asked.removeAll observer.declared) rest fresh).calls,
        (observe (asked.removeAll observer.declared) rest fresh).result,
        (observe (asked.removeAll observer.declared) rest fresh).stream⟩ := by
  rw [observe, TagSet.isEmpty_of_intersects meets]
  simp only [meets, Bool.not_true, Bool.false_eq_true, ↓reduceIte, looked, rewound, useless]

end Step

end LayerPass

namespace DetectionRun

section Step

variable {enabled : TagSet} {observers : List Observer} {decoders : DecoderRegistry}
  {limit : Option Nat} {recursion : Nat} {stream last : ByteStream} {id : FormatId}

/-- The pass of observers over the outermost layer of a stream. -/
abbrev observedPass (enabled : TagSet) (observers : List Observer) (limit : Option Nat)
    (stream : ByteStream) : LayerPass :=
  LayerPass.observe enabled observers (stream.setLimit limit)

variable (settled : (observedPass enabled observers limit stream).result = .ok id)
include settled

/-- The last layer has no decoder. -/
theorem observe_of_undecoded (absent : decoders.get? id.tag = none)
    (finished : finish (observedPass enabled observers limit stream).stream = .ok last) :
    (observe enabled observers decoders limit recursion stream).result = .ok ⟨[id], last⟩ := by
  cases recursion <;> rw [observe] <;> simp only [settled, absent, finished] <;> rfl

/-- The last layer is decoded, and no more layers may follow. -/
theorem observe_of_bounded {decoder : Decoder} (found : decoders.get? id.tag = some decoder)
    (finished : finish ((observedPass enabled observers limit stream).stream.decoded decoder) =
      .ok last) :
    (observe enabled observers decoders limit 0 stream).result = .ok ⟨[id], last⟩ := by
  rw [observe]
  simp only [settled, found, finished]
  rfl

/-- A layer is decoded, and the run goes on with what is inside. -/
theorem observe_of_deeper {decoder : Decoder} {inner : Detection}
    (found : decoders.get? id.tag = some decoder)
    (inside : (observe enabled observers decoders limit recursion
      ((observedPass enabled observers limit stream).stream.decoded decoder)).result = .ok inner) :
    (observe enabled observers decoders limit (recursion + 1) stream).result =
      .ok ⟨id :: inner.layers, inner.stream⟩ := by
  rw [observe]
  simp only [settled, found, inside]
  rfl

end Step

end DetectionRun

/-- An observer that leaves a stream as some look does. -/
def Observer.LeavesAsLook (observer : Observer) : Prop :=
  ∀ asked stream, ∃ probe : Probe, (observer.look asked stream).2 = (probe.run stream).2

section Rewinds

variable {observers : List Observer} {decoders : DecoderRegistry} {limit : Option Nat}
  {stream : ByteStream} (looks : ∀ observer ∈ observers, observer.LeavesAsLook)
  (rewinds : stream.Rewinds (decoders.Limits limit))
include looks rewinds

/-- A pass over a stream that can be rewound settles its layer. -/
theorem LayerPass.observe_ok_of_rewinds (asked : TagSet) :
    ∃ id, (observe asked observers stream).result = .ok id ∧
      (observe asked observers stream).stream.Rewinds (decoders.Limits limit) := by
  induction observers generalizing asked stream with
  | nil => exact ⟨.unknown, rfl, rewinds⟩
  | cons observer rest ih =>
      obtain ⟨first, later⟩ := List.forall_mem_cons.mp looks
      cases meets : observer.declared.intersects asked with
      | false =>
          rw [observe_cons_of_apart meets]
          exact ih later rewinds asked
      | true =>
          obtain ⟨probe, left⟩ := first asked stream
          obtain ⟨back, again⟩ := (rewinds.look probe).rewind
          rw [← left] at back again
          cases looked : observer.look asked stream with
          | mk outcome after =>
          rw [looked] at back again
          cases settled : settles? asked outcome with
          | some id =>
              rw [observe_cons_of_settled meets looked (Prod.ext back rfl) settled]
              exact ⟨id, rfl, again⟩
          | none =>
              rw [observe_cons_of_useless meets looked (Prod.ext back rfl) settled]
              exact ih later again _

namespace DetectionRun

/-- **A run of observers over a stream that can be rewound** comes to layers.  The induction is
on the layers that may still follow. -/
theorem observe_ok_of_rewinds (enabled : TagSet) (recursion : Nat) :
    ∃ detection, (observe enabled observers decoders limit recursion stream).result =
      .ok detection := by
  induction recursion generalizing stream with
  | zero =>
      obtain ⟨id, settled, after⟩ :=
        LayerPass.observe_ok_of_rewinds looks (rewinds.setLimit .whole) enabled
      cases found : decoders.get? id.tag with
      | none =>
          obtain ⟨last, finished⟩ := finish_ok_of_rewinds after
          exact ⟨_, observe_of_undecoded settled found finished⟩
      | some decoder =>
          obtain ⟨last, finished⟩ := finish_ok_of_rewinds (rewinds_inside after found)
          exact ⟨_, observe_of_bounded settled found finished⟩
  | succ recursion ih =>
      obtain ⟨id, settled, after⟩ :=
        LayerPass.observe_ok_of_rewinds looks (rewinds.setLimit .whole) enabled
      cases found : decoders.get? id.tag with
      | none =>
          obtain ⟨last, finished⟩ := finish_ok_of_rewinds after
          exact ⟨_, observe_of_undecoded settled found finished⟩
      | some decoder =>
          obtain ⟨inner, inside⟩ := ih (rewinds_inside after found)
          exact ⟨_, observe_of_deeper settled found inside⟩

end DetectionRun

end Rewinds

end Discern
