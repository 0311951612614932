import Discern.Detection.Run
import Discern.Proofs.Stream.Restoration
import Mathlib.Tactic.SplitIfs

/-!
# The layers of a content

On a stream that can be replayed a run of detection always comes to layers, and every
layer is settled by the rules of a pass (`Pass`) over the content inside the layers
before it, seen from its first byte by every detector that is asked
(`DetectionRun.run_layered`; which bytes those are says `Opened.shows`).  In a pass every
call is for the tags that no detector before it declares (`Pass.mem_calls`).
-/

namespace Discern

/-- **The rules of a pass** for some asked tags.  `opens` says which streams detectors
are given. -/
inductive Pass (opens : ByteStream → Prop) :
    TagSet → List Detector → List DetectorCall → FormatId → Prop
  /-- No detector is left. -/
  | done {asked : TagSet} : Pass opens asked [] [] .unknown
  /-- No tag is left. -/
  | exhausted {asked : TagSet} {detectors : List Detector} (nothing : ∀ tag, tag ∉ asked) :
      Pass opens asked detectors [] .unknown
  /-- A detector that declares no tag that is left is not asked. -/
  | skipped {asked : TagSet} {detector : Detector} {rest : List Detector}
      {calls : List DetectorCall} {id : FormatId}
      (apart : ∀ tag, tag ∈ detector.declared → tag ∉ asked)
      (later : Pass opens asked rest calls id) :
      Pass opens asked (detector :: rest) calls id
  /-- An identified format with a tag that is left is the answer of the pass. -/
  | settled {asked : TagSet} {detector : Detector} {rest : List Detector} {stream : ByteStream}
      {id : FormatId} (meets : ∃ tag, tag ∈ detector.declared ∧ tag ∈ asked)
      (opened : opens stream) (answers : ((detector.look asked).run stream).1 = .ok id)
      (identified : id.isUnknown = false) (wanted : id.tag ∈ asked) :
      Pass opens asked (detector :: rest) [⟨detector.name, asked, .ok id⟩] id
  /-- After any other answer, and after a fault, what the detector declares is consumed. -/
  | unsettled {asked : TagSet} {detector : Detector} {rest : List Detector}
      {stream : ByteStream} {calls : List DetectorCall} {id : FormatId}
      {outcome : Except Fault FormatId}
      (meets : ∃ tag, tag ∈ detector.declared ∧ tag ∈ asked)
      (opened : opens stream) (answers : ((detector.look asked).run stream).1 = outcome)
      (useless : ∀ other, outcome = .ok other → other.isUnknown = false → other.tag ∉ asked)
      (later : Pass opens (asked.removeAll detector.declared) rest calls id) :
      Pass opens asked (detector :: rest) (⟨detector.name, asked, outcome⟩ :: calls) id

/-- A pass answers with a format of a tag that was asked for, or unknown. -/
theorem Pass.answer_mem {opens : ByteStream → Prop} {asked : TagSet} {detectors : List Detector}
    {calls : List DetectorCall} {id : FormatId} (pass : Pass opens asked detectors calls id)
    (identified : id.isUnknown = false) : id.tag ∈ asked := by
  induction pass with
  | done => cases identified
  | exhausted => cases identified
  | skipped _ _ ih => exact ih identified
  | settled _ _ _ _ wanted => exact wanted
  | unsettled _ _ _ _ _ ih => exact (TagSet.mem_removeAll.mp (ih identified)).1

/-- **Every call of a pass** asks for exactly the tags that no detector before it declares,
no matter which of those were asked. -/
theorem Pass.mem_calls {opens : ByteStream → Prop} {enabled : TagSet} {detectors : List Detector}
    {calls : List DetectorCall} {id : FormatId} (pass : Pass opens enabled detectors calls id)
    {call : DetectorCall} (member : call ∈ calls) :
    ∃ before detector after, detectors = before ++ detector :: after ∧
      call.detector = detector.name ∧
      (∀ tag, tag ∈ call.asked ↔ tag ∈ enabled ∧ ∀ other ∈ before, tag ∉ other.declared) ∧
      (∃ tag, tag ∈ detector.declared ∧ tag ∈ call.asked) ∧
      ∃ stream, opens stream ∧ ((detector.look call.asked).run stream).1 = call.outcome := by
  induction pass with
  | done => cases member
  | exhausted => cases member
  | @skipped asked first rest calls id apart _ ih =>
      obtain ⟨before, detector, after, rfl, name, wanted, meets, opened⟩ := ih member
      refine ⟨first :: before, detector, after, rfl, name, fun tag => ?_, meets, opened⟩
      rw [wanted, List.forall_mem_cons]
      constructor
      · rintro ⟨left, fresh⟩
        exact ⟨left, fun declared => apart tag declared left, fresh⟩
      · rintro ⟨left, -, fresh⟩
        exact ⟨left, fresh⟩
  | @settled asked detector rest stream id meets opened answers _ _ =>
      obtain rfl := List.mem_singleton.mp member
      exact ⟨[], detector, rest, rfl, rfl, by simp, meets, stream, opened, answers⟩
  | @unsettled asked first rest stream calls id outcome meets opened answers _ _ ih =>
      rcases List.mem_cons.mp member with rfl | later
      · exact ⟨[], first, rest, rfl, rfl, by simp, meets, stream, opened, answers⟩
      · obtain ⟨before, detector, after, rfl, name, wanted, meets, opened⟩ := ih later
        refine ⟨first :: before, detector, after, rfl, name, fun tag => ?_, meets, opened⟩
        rw [wanted, List.forall_mem_cons, TagSet.mem_removeAll, and_assoc]

/-- A layer is settled by an identified format with a tag that was asked for. -/
theorem LayerPass.settles?_eq_some_iff {asked : TagSet} {outcome : Except Fault FormatId}
    {id : FormatId} :
    settles? asked outcome = some id ↔
      outcome = .ok id ∧ id.isUnknown = false ∧ id.tag ∈ asked := by
  cases outcome with
  | error fault => simp [settles?]
  | ok found =>
      simp only [settles?, Except.ok.injEq]
      constructor
      · intro settled
        split_ifs at settled with unknown wanted
        obtain rfl := Option.some.inj settled
        exact ⟨rfl, Bool.not_eq_true _ ▸ unknown, TagSet.contains_iff.mp wanted⟩
      · rintro ⟨rfl, identified, member⟩
        rw [identified, if_neg Bool.false_ne_true, if_pos (TagSet.contains_iff.mpr member)]

section Step

variable {asked : TagSet} {detector : Detector} {rest : List Detector}
  {stream after fresh : ByteStream} {outcome : Except Fault FormatId}

theorem TagSet.isEmpty_of_intersects {tags : TagSet} (meets : tags.intersects asked = true) :
    asked.isEmpty = false := by
  obtain ⟨tag, -, member⟩ := TagSet.intersects_iff.mp meets
  rw [TagSet.isEmpty, List.isEmpty_eq_false_iff]
  exact List.ne_nil_of_mem member

/-- Where no tag is left no detector is asked. -/
theorem LayerPass.run_of_isEmpty (nothing : asked.isEmpty = true) (detectors : List Detector) :
    run asked detectors stream = ⟨[], .ok .unknown, stream⟩ := by
  cases detectors with
  | nil => rfl
  | cons detector rest => rw [run, if_pos nothing]

/-- A detector of other tags is passed over. -/
theorem LayerPass.run_cons_of_apart (apart : detector.declared.intersects asked = false) :
    run asked (detector :: rest) stream = run asked rest stream := by
  by_cases nothing : asked.isEmpty = true
  · rw [run_of_isEmpty nothing, run_of_isEmpty nothing]
  · rw [run, if_neg nothing]
    simp only [apart, Bool.not_false, ↓reduceIte]

variable (meets : detector.declared.intersects asked = true)
  (looked : (detector.look asked).run stream = (outcome, after))
include meets looked

/-- A rewind that fails after a look ends the pass. -/
theorem LayerPass.run_cons_of_error {fault : Fault}
    (failed : after.rewind = (.error fault, fresh)) :
    run asked (detector :: rest) stream =
      ⟨[⟨detector.name, asked, outcome⟩], .error ⟨.resettingAfterDetector, fault⟩, fresh⟩ := by
  rw [run, TagSet.isEmpty_of_intersects meets]
  simp only [meets, Bool.not_true, Bool.false_eq_true, ↓reduceIte, looked, failed]

variable (rewound : after.rewind = (.ok (), fresh))
include rewound

/-- An answer that settles the layer ends the pass. -/
theorem LayerPass.run_cons_of_settled {id : FormatId}
    (settled : settles? asked outcome = some id) :
    run asked (detector :: rest) stream =
      ⟨[⟨detector.name, asked, outcome⟩], .ok id, fresh⟩ := by
  rw [run, TagSet.isEmpty_of_intersects meets]
  simp only [meets, Bool.not_true, Bool.false_eq_true, ↓reduceIte, looked, rewound, settled]

/-- Any other answer leaves the tags that the detector does not declare to those behind it. -/
theorem LayerPass.run_cons_of_useless (useless : settles? asked outcome = none) :
    run asked (detector :: rest) stream =
      ⟨⟨detector.name, asked, outcome⟩ ::
          (run (asked.removeAll detector.declared) rest fresh).calls,
        (run (asked.removeAll detector.declared) rest fresh).result,
        (run (asked.removeAll detector.declared) rest fresh).stream⟩ := by
  rw [run, TagSet.isEmpty_of_intersects meets]
  simp only [meets, Bool.not_true, Bool.false_eq_true, ↓reduceIte, looked, rewound, useless]

end Step

/-- A pass of one detector answers what settles the layer, and rewinds. -/
theorem LayerPass.run_single {asked : TagSet} {detector : Detector} {stream : ByteStream}
    (meets : detector.declared.intersects asked = true)
    (rewound : ((detector.look asked).run stream).2.rewind.1 = .ok ()) :
    (run asked [detector] stream).result =
        .ok ((settles? asked ((detector.look asked).run stream).1).getD .unknown) ∧
      (run asked [detector] stream).stream = ((detector.look asked).run stream).2.rewind.2 := by
  cases looked : (detector.look asked).run stream with
  | mk outcome after =>
  rw [looked] at rewound
  cases settled : settles? asked outcome with
  | some id =>
      rw [run_cons_of_settled meets looked (Prod.ext rewound rfl) settled]
      exact ⟨rfl, rfl⟩
  | none =>
      rw [run_cons_of_useless meets looked (Prod.ext rewound rfl) settled]
      exact ⟨rfl, rfl⟩

/-- **A pass settles its layer, or fails with the rewind after a look,** and keeps of the
stream what a look and a rewind that succeeds keep. -/
theorem LayerPass.run_cases (keeps : ByteStream → Prop)
    (looks : ∀ (probe : Probe) {stream}, keeps stream →
      (probe.run stream).2.rewind.1 = .ok () → keeps (probe.run stream).2.rewind.2)
    (detectors : List Detector) (asked : TagSet) {stream : ByteStream} (start : keeps stream) :
    (∃ id, (run asked detectors stream).result = .ok id ∧
      keeps (run asked detectors stream).stream) ∨
    ∃ (probe : Probe) (before : ByteStream) (fault : Fault), keeps before ∧
      (probe.run before).2.rewind.1 = .error fault ∧
      (run asked detectors stream).result = .error ⟨.resettingAfterDetector, fault⟩ := by
  induction detectors generalizing asked stream with
  | nil => exact .inl ⟨.unknown, rfl, start⟩
  | cons detector rest ih =>
      cases meets : detector.declared.intersects asked with
      | false =>
          rw [run_cons_of_apart meets]
          exact ih asked start
      | true =>
          have again := looks (detector.look asked) start
          generalize answers : (detector.look asked).run stream = look at again
          obtain ⟨outcome, after⟩ := look
          generalize restart : after.rewind = back at again
          obtain ⟨fault | done, fresh⟩ := back
          · rw [run_cons_of_error meets answers restart]
            exact .inr ⟨detector.look asked, stream, fault, start, by rw [answers, restart], rfl⟩
          · cases settled : settles? asked outcome with
            | some id =>
                rw [run_cons_of_settled meets answers restart settled]
                exact .inl ⟨id, rfl, again rfl⟩
            | none =>
                rw [run_cons_of_useless meets answers restart settled]
                exact ih _ (again rfl)

/-- A run ends where the rewind without a limit leads. -/
theorem DetectionRun.finish_eq_ok_iff {stream last : ByteStream} :
    finish stream = .ok last ↔ (stream.setLimit none).rewind = (.ok (), last) := by
  rw [finish]
  generalize (stream.setLimit none).rewind = back
  obtain ⟨fault | done, fresh⟩ := back <;> simp

section Pass

variable {σ : Type} {kind : StreamKind σ} {content : Bytes} {left : σ → Bytes → Prop}
  {limits : Option Nat → Prop} (replays : kind.Replays limits content left)
  {limit : Option Nat} {stack : List Decoder}
include replays

/-- **A pass follows its rules** and leaves the stream opened anew. -/
theorem LayerPass.run_pass (detectors : List Detector) (asked : TagSet) {stream : ByteStream}
    (opened : Opened kind content left limit stack stream) :
    ∃ id, (run asked detectors stream).result = .ok id ∧
      Opened kind content left limit stack (run asked detectors stream).stream ∧
      Pass (Opened kind content left limit stack) asked detectors
        (run asked detectors stream).calls id := by
  induction detectors generalizing asked stream with
  | nil => exact ⟨.unknown, rfl, opened, .done⟩
  | cons detector rest ih =>
      by_cases empty : asked.isEmpty = true
      · rw [run_of_isEmpty empty]
        refine ⟨.unknown, rfl, opened, .exhausted fun tag member => ?_⟩
        rw [TagSet.isEmpty, List.isEmpty_iff] at empty
        rw [TagSet.mem_def, empty] at member
        exact List.not_mem_nil member
      · cases meets : detector.declared.intersects asked with
        | true =>
            have looked := opened.reading.run replays.follows (detector.look asked)
            obtain ⟨rewound, again⟩ := looked.rewind replays
            have shared := TagSet.intersects_iff.mp meets
            generalize answers : (detector.look asked).run stream = look at rewound again
            obtain ⟨outcome, after⟩ := look
            generalize restart : after.rewind = back at rewound again
            obtain ⟨done, fresh⟩ := back
            obtain rfl : done = .ok () := rewound
            cases settled : settles? asked outcome with
            | some id =>
                obtain ⟨rfl, identified, wanted⟩ := settles?_eq_some_iff.mp settled
                rw [run_cons_of_settled meets answers restart settled]
                exact ⟨id, rfl, again, .settled shared opened (congrArg Prod.fst answers)
                  identified wanted⟩
            | none =>
                obtain ⟨id, result, reached, pass⟩ := ih (asked.removeAll detector.declared) again
                rw [run_cons_of_useless meets answers restart settled]
                refine ⟨id, result, reached, .unsettled shared opened (congrArg Prod.fst answers)
                  ?_ pass⟩
                intro other same identified member
                have someSettled := settles?_eq_some_iff.mpr ⟨same, identified, member⟩
                rw [settled] at someSettled
                cases someSettled
        | false =>
            obtain ⟨id, result, reached, pass⟩ := ih asked opened
            rw [run_cons_of_apart meets]
            refine ⟨id, result, reached, .skipped (fun tag declared member => ?_) pass⟩
            have shared := TagSet.intersects_iff.mpr ⟨tag, declared, member⟩
            rw [meets] at shared
            cases shared

/-- A run ends on a stream that is opened anew without a limit. -/
theorem DetectionRun.finish_ok {stream : ByteStream}
    (opened : Opened kind content left none stack (stream.setLimit none)) :
    ∃ last, finish stream = .ok last ∧ Opened kind content left none stack last := by
  obtain ⟨rewound, again⟩ := opened.reading.rewind replays
  exact ⟨_, finish_eq_ok_iff.mpr (Prod.ext rewound rfl), again⟩

end Pass

/-- The decoders that lead into the content inside some layers, the last one first. -/
def DecoderRegistry.unwrapping (decoders : DecoderRegistry) (layers : List FormatId) :
    List Decoder :=
  (layers.filterMap (decoders.get? ·.tag)).reverse

/-- The decoder of the outermost layer is the last of the stack. -/
theorem DecoderRegistry.unwrapping_cons {decoders : DecoderRegistry} {id : FormatId}
    {decoder : Decoder} (found : decoders.get? id.tag = some decoder) (layers : List FormatId) :
    decoders.unwrapping (id :: layers) = decoders.unwrapping layers ++ [decoder] := by
  simp [unwrapping, found]

/-- A layer without a decoder adds none to the stack. -/
theorem DecoderRegistry.unwrapping_cons_of_none {decoders : DecoderRegistry} {id : FormatId}
    (found : decoders.get? id.tag = none) (layers : List FormatId) :
    decoders.unwrapping (id :: layers) = decoders.unwrapping layers := by
  simp [unwrapping, found]

/-- The limits that reach a stream below decoders in a run with a limit. -/
inductive DecoderRegistry.Limits (decoders : DecoderRegistry) (limit : Option Nat) :
    Option Nat → Prop
  | lifted : Limits decoders limit none
  | whole : Limits decoders limit limit
  | share {decoder : Decoder} {above : Option Nat} (registered : decoder ∈ decoders.decoders)
      (given : Limits decoders limit above) :
      Limits decoders limit (above.map decoder.outerLimit)

/-- The limits of a run hold the shares that registered decoders make of them. -/
theorem DecoderRegistry.Limits.shares {decoders : DecoderRegistry} {limit : Option Nat}
    {stack : List Decoder} (registered : ∀ decoder ∈ stack, decoder ∈ decoders.decoders) :
    ∀ decoder ∈ stack, ∀ share, decoders.Limits limit share →
      decoders.Limits limit (share.map decoder.outerLimit) :=
  fun decoder member _ given => .share (registered decoder member) given

/-- A decoder that is found is registered. -/
theorem DecoderRegistry.mem_of_get? {decoders : DecoderRegistry} {tag : FormatTag}
    {decoder : Decoder} (found : decoders.get? tag = some decoder) :
    decoder ∈ decoders.decoders :=
  List.mem_of_find?_eq_some found

/-- **What views on a content show** that are opened without a limit on a stream that shows it: what
their decoders make of it one after the other, that of the outermost layer first.  Under a limit a
view delivers a beginning of what it shows without one (`ByteStream.Afresh.limited_replays`). -/
theorem Opened.shows {σ : Type} {kind : StreamKind σ} {content inner : Bytes}
    {left : σ → Bytes → Prop} {stack : List Decoder} {stream : ByteStream}
    {decode : Decoder → Bytes → Option Bytes}
    (opened : Opened kind content left none stack stream)
    (shown : ∀ s, left s content → ByteStream.Shows ⟨kind, s⟩ (some content))
    (computes : ∀ decoder ∈ stack, decoder.Computes (decode decoder))
    (composed : stack.foldrM decode content = some inner) : stream.Shows (some inner) := by
  obtain ⟨s, first, rfl⟩ := opened_none_iff.mp opened
  exact Decoder.Computes.shows_foldr computes (shown s first) composed

namespace DetectionRun

/-- **What the layers of a content are,** where `opens` says which streams show the
content behind some decoders. -/
structure Layered (enabled : TagSet) (detectors : List Detector) (decoders : DecoderRegistry)
    (opens : List Decoder → ByteStream → Prop) (recursion : Nat) (calls : List DetectorCall)
    (layers : List FormatId) : Prop where
  nonempty : 1 ≤ layers.length
  bounded : layers.length ≤ recursion + 1
  unwrapped : ∀ i id, layers[i]? = some id → i + 1 < layers.length →
    id.isUnknown = false ∧ ∃ decoder, decoders.get? id.tag = some decoder
  ended : layers.length < recursion + 1 →
    ∀ id, layers.getLast? = some id → decoders.get? id.tag = none
  wanted : ∀ id ∈ layers, id.isUnknown = false → id.tag ∈ enabled
  passes : ∃ callsOf : List (List DetectorCall),
    callsOf.length = layers.length ∧ calls = callsOf.flatten ∧
    ∀ i id own, layers[i]? = some id → callsOf[i]? = some own →
      Pass (opens (decoders.unwrapping (layers.take i))) enabled detectors own id

section Layered

variable {enabled : TagSet} {detectors : List Detector} {decoders : DecoderRegistry}
  {opens : List Decoder → ByteStream → Prop} {recursion : Nat} {calls : List DetectorCall}
  {id : FormatId}

/-- One layer is all there is where no decoder follows or the bound is reached. -/
theorem Layered.single (pass : Pass (opens []) enabled detectors calls id)
    (last : recursion = 0 ∨ decoders.get? id.tag = none) :
    Layered enabled detectors decoders opens recursion calls [id] where
  nonempty := Nat.le_refl 1
  bounded := Nat.succ_le_succ (Nat.zero_le recursion)
  unwrapped := fun i other _ inside => by
    rw [List.length_singleton] at inside
    omega
  ended := by
    intro short other same
    obtain rfl : id = other := by simpa using same
    rw [List.length_singleton] at short
    exact last.resolve_left (by omega)
  wanted := by
    intro other member identified
    obtain rfl := List.mem_singleton.mp member
    exact pass.answer_mem identified
  passes := by
    refine ⟨[calls], rfl, by simp, fun i other own found asked => ?_⟩
    cases i with
    | zero =>
        obtain rfl : id = other := by simpa using found
        obtain rfl : calls = own := by simpa using asked
        exact pass
    | succ i => simp at found

/-- A layer with a decoder is followed by the layers of what it decodes. -/
theorem Layered.cons {decoder : Decoder} {deeper : List DetectorCall} {layers : List FormatId}
    (pass : Pass (opens []) enabled detectors calls id)
    (found : decoders.get? id.tag = some decoder) (identified : id.isUnknown = false)
    (inner : Layered enabled detectors decoders (fun above => opens (above ++ [decoder]))
      recursion deeper layers) :
    Layered enabled detectors decoders opens (recursion + 1) (calls ++ deeper) (id :: layers) where
  nonempty := Nat.succ_le_succ (Nat.zero_le _)
  bounded := Nat.succ_le_succ inner.bounded
  unwrapped := by
    intro i other atIndex inside
    cases i with
    | zero =>
        obtain rfl : id = other := by simpa using atIndex
        exact ⟨identified, decoder, found⟩
    | succ i =>
        rw [List.getElem?_cons_succ] at atIndex
        rw [List.length_cons] at inside
        exact inner.unwrapped i other atIndex (by omega)
  ended := by
    intro short other same
    have longer := inner.nonempty
    rw [List.length_cons] at short
    obtain ⟨first, rest, rfl⟩ := List.exists_cons_of_length_pos longer
    rw [List.getLast?_cons_cons] at same
    exact inner.ended (by omega) other same
  wanted := by
    intro other member known
    rcases List.mem_cons.mp member with rfl | later
    · exact pass.answer_mem known
    · exact inner.wanted other later known
  passes := by
    obtain ⟨callsOf, lengths, flattened, each⟩ := inner.passes
    refine ⟨calls :: callsOf, by simp [lengths], by simp [flattened],
      fun i other own atIndex asked => ?_⟩
    cases i with
    | zero =>
        obtain rfl : id = other := by simpa using atIndex
        obtain rfl : calls = own := by simpa using asked
        exact pass
    | succ i =>
        rw [List.getElem?_cons_succ] at atIndex asked
        have below := each i other own atIndex asked
        rw [List.take_succ_cons, DecoderRegistry.unwrapping_cons found]
        exact below

end Layered

section Run

variable {enabled : TagSet} {detectors : List Detector} {decoders : DecoderRegistry}
  {limit : Option Nat} {recursion : Nat} {stream : ByteStream} {id : FormatId}
  (result : (LayerPass.run enabled detectors (stream.setLimit limit)).result = .ok id)
include result

/-- A run ends with a layer that has no decoder. -/
theorem run_eq_of_undecoded (found : decoders.get? id.tag = none) :
    run enabled detectors decoders limit recursion stream =
      ⟨(LayerPass.run enabled detectors (stream.setLimit limit)).calls,
        (finish (LayerPass.run enabled detectors (stream.setLimit limit)).stream).map
          (Detection.mk [id])⟩ := by
  cases recursion <;> rw [run] <;> simp only [result, found]

/-- At its bound a run ends with a layer that has one, and hands back its view. -/
theorem run_zero_of_decoded {decoder : Decoder} (found : decoders.get? id.tag = some decoder) :
    run enabled detectors decoders limit 0 stream =
      ⟨(LayerPass.run enabled detectors (stream.setLimit limit)).calls,
        (finish ((LayerPass.run enabled detectors (stream.setLimit limit)).stream.decoded
          decoder)).map (Detection.mk [id])⟩ := by
  rw [run]
  simp only [result, found]

/-- Below its bound a run goes on inside the view. -/
theorem run_succ_of_decoded {decoder : Decoder} (found : decoders.get? id.tag = some decoder) :
    run enabled detectors decoders limit (recursion + 1) stream =
      ⟨(LayerPass.run enabled detectors (stream.setLimit limit)).calls ++
          (run enabled detectors decoders limit recursion
            ((LayerPass.run enabled detectors (stream.setLimit limit)).stream.decoded
              decoder)).calls,
        (run enabled detectors decoders limit recursion
            ((LayerPass.run enabled detectors (stream.setLimit limit)).stream.decoded
              decoder)).result.map fun d => { d with layers := id :: d.layers }⟩ := by
  rw [run]
  simp only [result, found]

end Run

section Replayed

variable {σ : Type} {kind : StreamKind σ} {content : Bytes} {left : σ → Bytes → Prop}
  {decoders : DecoderRegistry} {limit : Option Nat}
  (replays : kind.Replays (decoders.Limits limit) content left)
  (unknown : decoders.get? .unknown = none) (enabled : TagSet) (detectors : List Detector)
include replays unknown

omit unknown in
/-- A layer without a decoder is the last one. -/
theorem run_behind_of_undecoded {recursion : Nat} {stack : List Decoder}
    (registered : ∀ decoder ∈ stack, decoder ∈ decoders.decoders) {stream : ByteStream}
    {id : FormatId}
    (result : (LayerPass.run enabled detectors (stream.setLimit limit)).result = .ok id)
    (after : Opened kind content left limit stack
      (LayerPass.run enabled detectors (stream.setLimit limit)).stream)
    (pass : Pass (Opened kind content left limit stack) enabled detectors
      (LayerPass.run enabled detectors (stream.setLimit limit)).calls id)
    (found : decoders.get? id.tag = none) :
    ∃ detection, (run enabled detectors decoders limit recursion stream).result = .ok detection ∧
      Layered enabled detectors decoders
        (fun above => Opened kind content left limit (above ++ stack)) recursion
        (run enabled detectors decoders limit recursion stream).calls detection.layers ∧
      Opened kind content left none (decoders.unwrapping detection.layers ++ stack)
        detection.stream := by
  obtain ⟨last, finished, again⟩ := finish_ok replays
    (after.setLimit replays.follows (DecoderRegistry.Limits.shares registered) .lifted)
  rw [run_eq_of_undecoded result found, finished]
  refine ⟨⟨[id], last⟩, rfl, .single pass (.inr found), ?_⟩
  rw [DecoderRegistry.unwrapping_cons_of_none found]
  exact again

/-- The run behind some decoders that have been opened already.  The induction is on the
layers that may still follow. -/
theorem run_behind (recursion : Nat) (stack : List Decoder)
    (registered : ∀ decoder ∈ stack, decoder ∈ decoders.decoders) (stream : ByteStream)
    (opened : ∀ share, decoders.Limits limit share →
      Opened kind content left share stack (stream.setLimit share)) :
    ∃ detection, (run enabled detectors decoders limit recursion stream).result = .ok detection ∧
      Layered enabled detectors decoders
        (fun above => Opened kind content left limit (above ++ stack)) recursion
        (run enabled detectors decoders limit recursion stream).calls detection.layers ∧
      Opened kind content left none (decoders.unwrapping detection.layers ++ stack)
        detection.stream := by
  induction recursion generalizing stack stream with
  | zero =>
      obtain ⟨id, result, after, pass⟩ :=
        LayerPass.run_pass replays detectors enabled (opened limit .whole)
      cases found : decoders.get? id.tag with
      | none => exact run_behind_of_undecoded replays _ _ registered result after pass found
      | some decoder =>
          have known := List.forall_mem_cons.mpr ⟨DecoderRegistry.mem_of_get? found, registered⟩
          obtain ⟨last, finished, again⟩ := finish_ok replays
            (after.setLimit_decoded replays decoder (DecoderRegistry.Limits.shares known) .lifted)
          rw [run_zero_of_decoded result found, finished]
          refine ⟨⟨[id], last⟩, rfl, .single pass (.inl rfl), ?_⟩
          rw [DecoderRegistry.unwrapping_cons found]
          exact again
  | succ recursion ih =>
      obtain ⟨id, result, after, pass⟩ :=
        LayerPass.run_pass replays detectors enabled (opened limit .whole)
      cases found : decoders.get? id.tag with
      | none => exact run_behind_of_undecoded replays _ _ registered result after pass found
      | some decoder =>
          have known := List.forall_mem_cons.mpr ⟨DecoderRegistry.mem_of_get? found, registered⟩
          obtain ⟨detection, deeper, layered, innermost⟩ := ih (decoder :: stack) known _
            fun share given => after.setLimit_decoded replays decoder
              (DecoderRegistry.Limits.shares known) given
          have identified : id.isUnknown = false := by
            rw [FormatId.isUnknown, FormatTag.isUnknown, beq_eq_false_iff_ne]
            intro same
            rw [same, unknown] at found
            cases found
          rw [run_succ_of_decoded result found, deeper]
          refine ⟨⟨id :: detection.layers, detection.stream⟩, rfl,
            .cons pass found identified ?_, ?_⟩
          · simpa only [List.append_assoc, List.singleton_append] using layered
          · rw [DecoderRegistry.unwrapping_cons found, List.append_assoc, List.singleton_append]
            exact innermost

end Replayed

/-- A detector that reads eight bytes and finds base64 where they are a text of it. -/
def base64Finder : Detector where
  name := "finder"
  declared := .ofList [.base64]
  look _ := .read 8 fun got => .answer (got.map fun bytes =>
    if !bytes.isEmpty && (Base64.decode? bytes).isSome then { tag := .base64 } else .unknown)

/-- The base64 of the base64 of `hi`. -/
def nestedBase64 : Bytes := [0x59, 0x55, 0x64, 0x72, 0x50, 0x51, 0x3D, 0x3D]

end DetectionRun

end Discern
