import Discern.Proofs.Detection.Chunking
import Discern.Proofs.Detection.Observation
import Discern.Proofs.Stream.Overflow
import Discern.Proofs.Stream.Twins

/-!
# What a detector reads is without effect

A detector may fail, answer what it was not asked for, and leave the stream anywhere.  Compare a
run with the one in which some detectors, or all, are replaced by observers that read nothing and
know what would have been heard of their answers (`Detector.ReplacedBy`).  Over a stream that
answers after each rewind as it did before, both runs come to the same layers and hand back the
same content (`DetectionRun.reading_without_effect`).

A replay buffer hands out what it has kept in other pieces.  There the same holds for detectors
that judge by the bytes alone, as long as nothing is decoded inside a base64 text with a flaw.
Other detectors, and what is decoded inside of such a text, depend on the pieces and with them on
what a failing detector has read before (`DetectionRun.reading_felt_in_pieces`).
-/

namespace Discern

/-- **What a pass hears** of an answer: a format, if it was asked for it. -/
def LayerPass.heard (asked : TagSet) : Except Fault FormatId → FormatId
  | .ok id => if asked.contains id.tag then id else .unknown
  | .error _ => .unknown

/-- What settles a layer is heard. -/
theorem LayerPass.settles?_heard (asked : TagSet) (outcome : Except Fault FormatId) :
    settles? asked (.ok (heard asked outcome)) = settles? asked outcome := by
  cases outcome with
  | error fault => rfl
  | ok id =>
      by_cases wanted : asked.contains id.tag = true
      · rw [heard, if_pos wanted]
      · rw [heard, if_neg wanted, settles?, settles?, if_neg wanted, ite_self]
        rfl

/-- **A detector that reads nothing** and answers what is heard of the one it stands for. -/
def Detector.silenced (detector : Detector) : Observer where
  name := detector.name
  declared := detector.declared
  look asked stream := (.ok (LayerPass.heard asked ((detector.look asked).run stream).1), stream)

/-- **What a detector is replaced by:** itself, or one that reads nothing in its stead. -/
inductive Detector.ReplacedBy (detector : Detector) : Observer → Prop
  | itself : detector.ReplacedBy detector.observer
  | silenced : detector.ReplacedBy detector.silenced

namespace Detector.ReplacedBy

variable {detector : Detector} {observer : Observer} (replaced : detector.ReplacedBy observer)
include replaced

/-- What stands in for a detector declares what it declares. -/
theorem declared_eq : observer.declared = detector.declared := by
  cases replaced <;> rfl

/-- What stands in for a detector leaves a stream as a look does. -/
theorem leavesAsLook : observer.LeavesAsLook := by
  intro asked stream
  cases replaced with
  | itself => exact ⟨detector.look asked, rfl⟩
  | silenced => exact ⟨.answer (.ok .unknown), rfl⟩

/-- It settles the layers that the detector settles. -/
theorem settles?_look (asked : TagSet) (stream : ByteStream) :
    LayerPass.settles? asked (observer.look asked stream).1 =
      LayerPass.settles? asked ((detector.look asked).run stream).1 := by
  cases replaced with
  | itself => rfl
  | silenced => exact LayerPass.settles?_heard asked _

end Detector.ReplacedBy

/-- Streams that can be rewound to streams alike, whatever either look has read. -/
def RewindAlike (alike : ByteStream → ByteStream → Prop) : Prop :=
  ∀ {one other}, alike one other → ∀ first second : Probe,
    (first.run one).2.rewind.1 = .ok () ∧ (second.run other).2.rewind.1 = .ok () ∧
      alike (first.run one).2.rewind.2 (second.run other).2.rewind.2

/-- **Passes over streams alike** settle the layer alike if the same is heard of each detector. -/
theorem LayerPass.observe_alike {alike : ByteStream → ByteStream → Prop}
    (rewinds : RewindAlike alike) {detectors : List Detector} {observers : List Observer}
    (replaced : List.Forall₂ Detector.ReplacedBy detectors observers)
    (hears : ∀ detector ∈ detectors, ∀ asked {one other}, alike one other →
      heard asked ((detector.look asked).run one).1 =
        heard asked ((detector.look asked).run other).1)
    (asked : TagSet) {one other : ByteStream} (start : alike one other) :
    ∃ id, (run asked detectors one).result = .ok id ∧
      (observe asked observers other).result = .ok id ∧
      alike (run asked detectors one).stream (observe asked observers other).stream := by
  induction replaced generalizing asked one other with
  | nil => exact ⟨.unknown, rfl, rfl, start⟩
  | @cons detector observer detectors observers first _ ih =>
      obtain ⟨hears, later⟩ := List.forall_mem_cons.mp hears
      cases meets : detector.declared.intersects asked with
      | false =>
          have apart : observer.declared.intersects asked = false := by rwa [first.declared_eq]
          rw [run_cons_of_apart meets, observe_cons_of_apart apart]
          exact ih later asked start
      | true =>
          have meets' : observer.declared.intersects asked = true := by rwa [first.declared_eq]
          obtain ⟨probe, left⟩ := first.leavesAsLook asked other
          obtain ⟨back, back', again⟩ := rewinds start (detector.look asked) probe
          have same : settles? asked (observer.look asked other).1 =
              settles? asked ((detector.look asked).run one).1 := by
            rw [first.settles?_look, ← settles?_heard, ← hears asked start, settles?_heard]
          rw [← left] at back' again
          cases looked : (detector.look asked).run one with
          | mk outcome after =>
          cases looked' : observer.look asked other with
          | mk outcome' after' =>
          rw [looked] at back again same
          rw [looked'] at back' again same
          cases settled : settles? asked outcome with
          | some id =>
              rw [run_cons_of_settled meets looked (Prod.ext back rfl) settled,
                observe_cons_of_settled meets' looked' (Prod.ext back' rfl) (same.trans settled)]
              exact ⟨id, rfl, rfl, again⟩
          | none =>
              rw [run_cons_of_useless meets looked (Prod.ext back rfl) settled,
                observe_cons_of_useless meets' looked' (Prod.ext back' rfl) (same.trans settled),
                first.declared_eq]
              exact ih later _ again

namespace DetectionRun

/-- **Streams for two runs side by side.**  What is opened behind the same decoders is `alike`:
both can be rewound and decoded, and are alike again.  As long as the decoders are `clear`, the
same is read from both, and the same is heard of each detector. -/
structure SideBySide (detectors : List Detector) (decoders : DecoderRegistry)
    (limit : Option Nat) (clear : List Decoder → Prop)
    (alike : List Decoder → ByteStream → ByteStream → Prop) : Prop where
  setLimit : ∀ {stack one other share}, alike stack one other → decoders.Limits limit share →
    alike stack (one.setLimit share) (other.setLimit share)
  rewind : ∀ stack, RewindAlike (alike stack)
  decoded : ∀ {stack one other decoder}, alike stack one other → decoder ∈ decoders.decoders →
    alike (decoder :: stack) (one.decoded decoder) (other.decoded decoder)
  rewinds : ∀ {stack one other}, alike stack one other →
    one.Rewinds (decoders.Limits limit) ∧ other.Rewinds (decoders.Limits limit)
  inside : ∀ {above stack}, clear (above ++ stack) → clear stack
  reads : ∀ {stack one other}, clear stack → alike stack one other →
    (one.readUpTo none).1 = (other.readUpTo none).1
  hears : ∀ {stack}, clear stack → ∀ detector ∈ detectors, ∀ asked {one other},
    alike stack one other →
    LayerPass.heard asked ((detector.look asked).run one).1 =
      LayerPass.heard asked ((detector.look asked).run other).1

/-- **What two runs come to** behind some decoders: the same layers as long as the decoders are
clear. -/
structure Agree (decoders : DecoderRegistry) (clear : List Decoder → Prop)
    (alike : List Decoder → ByteStream → ByteStream → Prop) (stack : List Decoder)
    (first second : Detection) : Prop where
  beginnings : ∀ count, clear (decoders.unwrapping (first.layers.take count) ++ stack) →
    first.layers.take (count + 1) = second.layers.take (count + 1)
  whole : clear (decoders.unwrapping first.layers ++ stack) → first.layers = second.layers ∧
    alike (decoders.unwrapping first.layers ++ stack) first.stream second.stream

section Agree

variable {decoders : DecoderRegistry} {clear : List Decoder → Prop}
  {alike : List Decoder → ByteStream → ByteStream → Prop} {stack : List Decoder}
  {id : FormatId}

/-- Runs that end with one layer agree on it. -/
theorem Agree.single {last last' : ByteStream}
    (ends : alike (decoders.unwrapping [id] ++ stack) last last') :
    Agree decoders clear alike stack ⟨[id], last⟩ ⟨[id], last'⟩ where
  beginnings := fun _ _ => rfl
  whole := fun _ => ⟨rfl, ends⟩

/-- Runs that agree on the layers inside a layer agree on all of them. -/
theorem Agree.cons {decoder : Decoder} {inner inner' : Detection}
    (agree : Agree decoders clear alike (decoder :: stack) inner inner')
    (found : decoders.get? id.tag = some decoder) :
    Agree decoders clear alike stack ⟨id :: inner.layers, inner.stream⟩
      ⟨id :: inner'.layers, inner'.stream⟩ where
  beginnings := by
    intro count unclouded
    cases count with
    | zero => rfl
    | succ count =>
        rw [List.take_succ_cons, DecoderRegistry.unwrapping_cons found, List.append_assoc,
          List.singleton_append] at unclouded
        exact congrArg (id :: ·) (agree.beginnings count unclouded)
  whole := by
    rw [DecoderRegistry.unwrapping_cons found, List.append_assoc, List.singleton_append]
    intro unclouded
    obtain ⟨same, ends⟩ := agree.whole unclouded
    exact ⟨congrArg (id :: ·) same, ends⟩

end Agree

namespace SideBySide

variable {detectors : List Detector} {observers : List Observer} {decoders : DecoderRegistry}
  {limit : Option Nat} {clear : List Decoder → Prop}
  {alike : List Decoder → ByteStream → ByteStream → Prop}
  (sides : SideBySide detectors decoders limit clear alike)
  {stack : List Decoder} {one other : ByteStream}
include sides

/-- Streams that are alike end runs alike. -/
theorem finish (start : alike stack one other) :
    ∃ last last', DetectionRun.finish one = .ok last ∧ DetectionRun.finish other = .ok last' ∧
      alike stack last last' := by
  obtain ⟨back, back', again⟩ := sides.rewind stack (sides.setLimit start .lifted)
    (.answer (.ok .unknown)) (.answer (.ok .unknown))
  exact ⟨_, _, finish_eq_ok_iff.mpr (Prod.ext back rfl), finish_eq_ok_iff.mpr (Prod.ext back' rfl),
    again⟩

variable (replaced : List.Forall₂ Detector.ReplacedBy detectors observers) (enabled : TagSet)
include replaced

omit sides in
/-- Whatever detectors are replaced by leaves a stream as a look does. -/
theorem looks_of_replaced : ∀ observer ∈ observers, observer.LeavesAsLook := by
  induction replaced with
  | nil => exact List.forall_mem_nil _
  | cons first _ ih => exact List.forall_mem_cons.mpr ⟨first.leavesAsLook, ih⟩

/-- One layer behind clear decoders is settled alike, and `deeper` compares what is inside. -/
theorem exists_agree_of_clear (unclouded : clear stack) (start : alike stack one other)
    {recursion : Nat}
    (deeper : ∀ further decoder, recursion = further + 1 → ∀ {one other},
      alike (decoder :: stack) one other → ∃ first second,
        (run enabled detectors decoders limit further one).result = .ok first ∧
        (observe enabled observers decoders limit further other).result = .ok second ∧
        Agree decoders clear alike (decoder :: stack) first second) :
    ∃ first second,
      (run enabled detectors decoders limit recursion one).result = .ok first ∧
      (observe enabled observers decoders limit recursion other).result = .ok second ∧
      Agree decoders clear alike stack first second := by
  obtain ⟨id, settled, settled', after⟩ := LayerPass.observe_alike (sides.rewind stack) replaced
    (sides.hears unclouded) enabled (sides.setLimit start .whole)
  cases found : decoders.get? id.tag with
  | none =>
      obtain ⟨last, last', finished, finished', again⟩ := sides.finish after
      refine ⟨_, _, (Completes.undecoded settled found finished).result,
        observe_of_undecoded settled' found finished', .single ?_⟩
      rwa [DecoderRegistry.unwrapping_cons_of_none found]
  | some decoder =>
      have views := sides.decoded after (DecoderRegistry.mem_of_get? found)
      cases recursion with
      | zero =>
          obtain ⟨last, last', finished, finished', again⟩ := sides.finish views
          refine ⟨_, _, (Completes.bounded settled found finished).result,
            observe_of_bounded settled' found finished', .single ?_⟩
          rwa [DecoderRegistry.unwrapping_cons found]
      | succ further =>
          obtain ⟨inner, inner', inside, inside', agree⟩ := deeper further decoder rfl views
          exact ⟨_, _, (Completes.deeper settled found (.of_result inside)).result,
            observe_of_deeper settled' found inside', agree.cons found⟩

/-- **Two runs side by side** come to layers that agree.  The induction is on the layers that
may still follow. -/
theorem exists_agree (recursion : Nat) (start : alike stack one other) :
    ∃ first second,
      (run enabled detectors decoders limit recursion one).result = .ok first ∧
      (observe enabled observers decoders limit recursion other).result = .ok second ∧
      Agree decoders clear alike stack first second := by
  induction recursion using Nat.strongRecOn generalizing stack one other with
  | ind recursion ih =>
      by_cases unclouded : clear stack
      · refine sides.exists_agree_of_clear replaced enabled unclouded start ?_
        rintro further decoder rfl one other views
        exact ih further (Nat.lt_succ_self further) views
      · -- Each run comes to layers of its own.
        obtain ⟨able, able'⟩ := sides.rewinds start
        obtain ⟨first, result⟩ := run_ok_of_rewinds able enabled detectors recursion
        obtain ⟨second, result'⟩ :=
          observe_ok_of_rewinds (looks_of_replaced replaced) able' enabled recursion
        exact ⟨first, second, result, result',
          fun _ above => absurd (sides.inside above) unclouded,
          fun above => absurd (sides.inside above) unclouded⟩

/-- The runs over streams that are alike. -/
theorem exists_same (recursion : Nat) (start : alike [] one other) :
    ∃ first second,
      (run enabled detectors decoders limit recursion one).result = .ok first ∧
      (observe enabled observers decoders limit recursion other).result = .ok second ∧
      (∀ count, clear (decoders.unwrapping (first.layers.take count)) →
        first.layers.take (count + 1) = second.layers.take (count + 1)) ∧
      (clear (decoders.unwrapping first.layers) →
        first.layers = second.layers ∧ first.content = second.content) := by
  obtain ⟨first, second, result, result', agree⟩ :=
    sides.exists_agree replaced enabled recursion start
  refine ⟨first, second, result, result', fun count unclouded => ?_, fun unclouded => ?_⟩
  · exact agree.beginnings count (by rwa [List.append_nil])
  · obtain ⟨same, ends⟩ := agree.whole (by rwa [List.append_nil])
    rw [List.append_nil] at ends
    exact ⟨same, congrArg (Except.mapError (StreamError.mk .readingDecoded))
      (sides.reads unclouded ends)⟩

end SideBySide

end DetectionRun

/-- Streams that answer alike can both be rewound. -/
theorem ByteStream.Twins.rewinds {limits : Option Nat → Prop} {one other : ByteStream}
    (twins : one.Twins limits other) : one.Rewinds limits ∧ other.Rewinds limits := by
  obtain @⟨σ, kind, akin, same, s, t, recalls, here⟩ := twins
  have kept : kind.Rewinds limits fun s => ∃ t, akin s t := by
    refine ⟨?_, ?_, ?_⟩
    · rintro s ⟨t, near⟩ n
      exact ⟨t, recalls.read near n⟩
    · rintro s ⟨t, near⟩
      obtain ⟨rewound, again⟩ := recalls.rewind near
      exact ⟨rewound, _, recalls.akin_of_same again⟩
    · rintro s limit given ⟨t, near⟩
      exact ⟨_, recalls.limit given near⟩
  have near := recalls.akin_of_same here
  exact ⟨⟨_, kept, t, near⟩, _, kept, s, recalls.symm near⟩

/-- No detector can tell streams that answer alike apart. -/
theorem DetectionRun.sideBySide_twins (detectors : List Detector) (decoders : DecoderRegistry)
    (limit : Option Nat) :
    SideBySide detectors decoders limit (fun _ => True)
      fun _ one other => one.Twins (decoders.Limits limit) other where
  setLimit := fun twins given => twins.setLimit given
  rewind := fun _ _ _ twins => twins.rewind
  decoded := fun twins registered => twins.decoded fun _ given => .share registered given
  rewinds := fun twins => twins.rewinds
  inside := fun _ => trivial
  reads := fun _ twins => (twins.readUpTo none).1
  hears := fun _ detector _ asked _ _ twins =>
    congrArg (LayerPass.heard asked) (twins.run (detector.look asked))

/-- **A detector that judges by the bytes alone:** what is heard of it is the same for streams
from which the same is read. -/
def Detector.Steady (detector : Detector) : Prop :=
  ∀ (asked : TagSet) {one other : ByteStream},
    (∀ limit, (one.readUpTo limit).1 = (other.readUpTo limit).1) →
    LayerPass.heard asked ((detector.look asked).run one).1 =
      LayerPass.heard asked ((detector.look asked).run other).1

/-- A detector that judges what it has read goes by the bytes alone. -/
theorem Detector.Judges.steady {detector : Detector} (judges : detector.Judges) :
    detector.Steady :=
  fun asked _ _ same => congrArg (LayerPass.heard asked) (judges.alike asked same)

/-- A detector of which nothing is ever heard, however much it reads. -/
theorem Detector.steady_of_unheard {detector : Detector}
    (unheard : ∀ asked stream,
      LayerPass.heard asked ((detector.look asked).run stream).1 = .unknown) :
    detector.Steady :=
  fun asked one other _ => (unheard asked one).trans (unheard asked other).symm

/-- Without a limit no share of it is one. -/
theorem DecoderRegistry.Limits.eq_none {decoders : DecoderRegistry} {share : Option Nat}
    (given : decoders.Limits none share) : share = none := by
  induction given with
  | lifted => rfl
  | whole => rfl
  | share _ _ ih => rw [ih, Option.map_none]

section Repeats

variable {σ : Type} {kind : StreamKind σ} {content : Bytes} {left : σ → Bytes → Prop}
  (repeats : kind.Repeats content left) {decoders : DecoderRegistry}
include repeats

/-- Views on a stream that repeats its content can be rewound. -/
theorem Opened.rewinds {stack : List Decoder} {stream : ByteStream}
    (opened : Opened kind content left none stack stream) :
    stream.Rewinds (decoders.Limits none) := by
  obtain ⟨base, first, rfl⟩ := opened_none_iff.mp opened
  clear opened
  induction stack with
  | nil =>
      refine ⟨fun s => ∃ rest, left s rest, ⟨?_, ?_, ?_⟩, content, first⟩
      · rintro s ⟨rest, inside⟩ n
        exact repeats.toReplays.follows.read inside n
      · rintro s ⟨rest, inside⟩
        obtain ⟨rewound, again⟩ := repeats.rewind inside
        exact ⟨rewound, content, again⟩
      · rintro s limit given ⟨rest, inside⟩
        exact ⟨rest, repeats.limit given.eq_none inside⟩
  | cons decoder stack ih =>
      refine ByteStream.Rewinds.decoded ih fun share given => ?_
      rw [given.eq_none]
      exact .lifted

variable {convert : Decoder → Flow → Flow} (converts : decoders.ConvertsBy convert)
  {detectors : List Detector} (steady : ∀ detector ∈ detectors, detector.Steady)
include converts steady

/-- **Steady detectors cannot tell in which pieces** a content is repeated, as long as nothing is
decoded inside a text with a flaw. -/
theorem DetectionRun.sideBySide_repeats :
    SideBySide detectors decoders none (DecodesUnflawed convert content) fun stack one other =>
      (∀ decoder ∈ stack, decoder ∈ decoders.decoders) ∧
        Opened kind content left none stack one ∧ Opened kind content left none stack other where
  setLimit := by
    rintro stack one other share ⟨registered, opened, opened'⟩ given
    rw [given.eq_none]
    exact ⟨registered, opened_setLimit_none repeats opened, opened_setLimit_none repeats opened'⟩
  rewind := by
    rintro stack one other ⟨registered, opened, opened'⟩ first second
    have again : ∀ (probe : Probe) {stream}, Opened kind content left none stack stream →
        (probe.run stream).2.rewind.1 = .ok () ∧
          Opened kind content left none stack (probe.run stream).2.rewind.2 :=
      fun probe _ opened =>
        (opened.reading.run repeats.toReplays.follows probe).rewind repeats.toReplays
    exact ⟨(again first opened).1, (again second opened').1, registered, (again first opened).2,
      (again second opened').2⟩
  decoded := by
    rintro stack one other decoder ⟨registered, opened, opened'⟩ known
    exact ⟨List.forall_mem_cons.mpr ⟨known, registered⟩, Opened.decoded opened,
      Opened.decoded opened'⟩
  rewinds := fun ⟨_, opened, opened'⟩ => ⟨opened.rewinds repeats, opened'.rewinds repeats⟩
  inside := DecodesUnflawed.inside
  reads := by
    rintro stack one other unflawed ⟨registered, views⟩
    exact (lockstep_opened repeats repeats converts registered unflawed).reads views none
  hears := by
    rintro stack unflawed detector member asked one other ⟨registered, views⟩
    exact steady detector member asked
      ((lockstep_opened repeats repeats converts registered unflawed).reads views)

end Repeats

namespace DetectionRun

/-- **What detectors read is without effect,** whatever they answer and however they fail.  Put
observers that read nothing in the place of some detectors, or of all, which answer what would
have been heard of these.  Then the run comes to the same layers and hands back the same content

* over a stream that answers after every rewind as it did before, and
* over one that repeats its content in pieces of any sizes, if the detectors judge by the bytes
  alone and no decoder is applied inside a base64 text with a flaw.  If one is, the layers are
  the same up to the first such one. -/
theorem reading_without_effect (enabled : TagSet) (detectors : List Detector)
    (observers : List Observer) (decoders : DecoderRegistry) (recursion : Nat)
    (replaced : List.Forall₂ Detector.ReplacedBy detectors observers) :
    (∀ limit stream, stream.Twins (decoders.Limits limit) stream → ∃ first second,
      (run enabled detectors decoders limit recursion stream).result = .ok first ∧
      (observe enabled observers decoders limit recursion stream).result = .ok second ∧
      first.layers = second.layers ∧ first.content = second.content) ∧
    ∀ content stream convert, stream.Repeats content → decoders.ConvertsBy convert →
      (∀ detector ∈ detectors, detector.Steady) → ∃ first second,
        (run enabled detectors decoders none recursion stream).result = .ok first ∧
        (observe enabled observers decoders none recursion stream).result = .ok second ∧
        (∀ count,
          DecodesUnflawed convert content (decoders.unwrapping (first.layers.take count)) →
            first.layers.take (count + 1) = second.layers.take (count + 1)) ∧
        (DecodesUnflawed convert content (decoders.unwrapping first.layers) →
          first.layers = second.layers ∧ first.content = second.content) := by
  constructor
  · intro limit stream twins
    obtain ⟨first, second, result, result', -, same⟩ :=
      (sideBySide_twins detectors decoders limit).exists_same replaced enabled recursion twins
    exact ⟨first, second, result, result', same trivial⟩
  · rintro content stream convert ⟨left, repeats, start⟩ converts steady
    have opened : Opened stream.kind content left none [] stream := .base start
    exact (sideBySide_repeats repeats converts steady).exists_same replaced enabled recursion
      ⟨List.forall_mem_nil _, opened, opened⟩

/-- A buffer without a limit repeats the content of its reader. -/
theorem buffered_repeats {σ : Type} {reader : Reader σ} {start : σ} {content : Bytes}
    (shown : reader.Shows start (some content)) :
    (ByteStream.buffered reader start none).Repeats content :=
  ⟨_, ⟨Buffered.replays reader content fun _ same => same, fun left => left.1.shows⟩,
    Buffered.left_start shown none, rfl, rfl⟩

/-- Of the decoders of two layers only the inner one is inside of something, which the outer one
makes of the content itself. -/
theorem decodesUnflawed_of_two {convert : Decoder → Flow → Flow} {content : Bytes}
    {decoders : DecoderRegistry} {layers : List FormatId} (few : layers.length ≤ 2)
    (unflawed : ¬ Base64.Flawed content) :
    DecodesUnflawed convert content (decoders.unwrapping layers) := by
  intro above below views some_above
  have lengths := congrArg List.length views
  have views_le : (decoders.unwrapping layers).length ≤ layers.length := by
    rw [DecoderRegistry.unwrapping, List.length_reverse]
    exact List.length_filterMap_le _ _
  have above_length := List.length_pos_iff.mpr some_above
  rw [List.length_append, List.length_cons] at lengths
  obtain rfl : below = [] := List.length_eq_zero_iff.mp (by omega)
  exact unflawed

/-- A detector of documents that reads eight bytes of anything and fails. -/
def failingReader : Detector where
  name := "failing"
  declared := .ofList [documentTag]
  look _ := .read 8 fun _ => .answer (.error (.foreign .brokenPipe "device gone"))

/-- The tags of base64, documents and archives. -/
def nestTags : TagSet := .ofList [.base64, documentTag, archiveTag]

/-- A detector that reads eight bytes and fails changes nothing in nested base64, behind a buffer or
not. -/
theorem reading_without_effect_nestedBase64 :
    List.Forall₂ Detector.ReplacedBy [failingReader, .ofTable nestedTable]
      [failingReader.silenced, (Detector.ofTable nestedTable).observer] ∧
    (ByteStream.ofBytes nestedBase64).Twins
      ((DecoderRegistry.register .empty .base64).Limits (some 4)) (.ofBytes nestedBase64) ∧
    (ByteStream.buffered Cursor.kind.toReader (.start nestedBase64) none).Repeats nestedBase64 ∧
    (DecoderRegistry.register .empty .base64).ConvertsBy (fun _ => Base64.flow) ∧
    (∀ detector ∈ [failingReader, .ofTable nestedTable], detector.Steady) ∧
    (∃ first second,
      (run nestTags [failingReader, .ofTable nestedTable] (.register .empty .base64) (some 4) 1
        (.ofBytes nestedBase64)).result = .ok first ∧
      (observe nestTags [failingReader.silenced, (Detector.ofTable nestedTable).observer]
        (.register .empty .base64) (some 4) 1 (.ofBytes nestedBase64)).result = .ok second ∧
      first.layers = second.layers ∧ first.content = second.content) ∧
    ∃ first second,
      (run nestTags [failingReader, .ofTable nestedTable] (.register .empty .base64) none 1
        (.buffered Cursor.kind.toReader (.start nestedBase64) none)).result = .ok first ∧
      (observe nestTags [failingReader.silenced, (Detector.ofTable nestedTable).observer]
        (.register .empty .base64) none 1
        (.buffered Cursor.kind.toReader (.start nestedBase64) none)).result = .ok second ∧
      first.layers = second.layers ∧ first.content = second.content := by
  have replaced : List.Forall₂ Detector.ReplacedBy [failingReader, .ofTable nestedTable]
      [failingReader.silenced, (Detector.ofTable nestedTable).observer] :=
    .cons .silenced (.cons .itself .nil)
  have converts : (DecoderRegistry.register .empty .base64).ConvertsBy fun _ => Base64.flow :=
    fun decoder member => .inr ⟨List.mem_singleton.mp member, rfl⟩
  have steady : ∀ detector ∈ [failingReader, .ofTable nestedTable], detector.Steady :=
    List.forall_mem_cons.mpr ⟨Detector.steady_of_unheard fun _ _ => rfl,
      List.forall_mem_singleton.mpr (Detector.ofTable_judges nestedTable).steady⟩
  have buffered := buffered_repeats (Cursor.shows (.start nestedBase64))
  obtain ⟨inMemory, repeated⟩ := reading_without_effect nestTags
    [failingReader, .ofTable nestedTable]
    [failingReader.silenced, (Detector.ofTable nestedTable).observer] (.register .empty .base64) 1
    replaced
  refine ⟨replaced, Cursor.twins _ _, buffered, converts, steady,
    inMemory (some 4) _ (Cursor.twins _ _), ?_⟩
  obtain ⟨first, second, result, result', -, same⟩ :=
    repeated nestedBase64 _ _ buffered converts steady
  exact ⟨first, second, result, result',
    same (decodesUnflawed_of_two (Completes.of_result result).length_le (by decide))⟩

end DetectionRun

namespace ByteStream

open Base64 (Work)

/-- What one request brings, and where a rewind leads to from there. -/
def Gives (stream : ByteStream) (n : Nat) (got : Except Fault Bytes) (fresh : ByteStream) : Prop :=
  ∃ next, stream.kind.read n stream.state = (got, next) ∧
    (⟨stream.kind, next⟩ : ByteStream).rewind = (.ok (), fresh)

variable {stream fresh : ByteStream} {n : Nat}

/-- A base64 view gives what its decoder makes of one request to the stream below. -/
theorem Gives.decoded {got result : Except Fault Bytes} (gives : stream.Gives 1024 got fresh)
    (asked : n ≠ 0) {next : Work}
    (serves : (Work.fresh.absorb got).serving n = .answer result next) :
    (stream.decoded .base64).Gives n result (fresh.decoded .base64) := by
  obtain ⟨kind, s⟩ := stream
  obtain ⟨s', reads, back⟩ := gives
  have served : Decoded.read .base64 kind.toReader n ⟨⟨s, none, 0, false⟩, none⟩ =
      (result, ⟨⟨s', none, 0 + taken got, false⟩, some next⟩) := by
    calc Decoded.read .base64 kind.toReader n ⟨⟨s, none, 0, false⟩, none⟩
      _ = Decoded.serve .base64 kind.toReader n Work.fresh ⟨s, none, 0, false⟩ :=
        Decoded.read_of_begins rfl ..
      _ = Decoded.serve .base64 kind.toReader n (Work.fresh.absorb got)
          ⟨s', none, 0 + taken got, false⟩ :=
        Decoded.serve_of_pull (if_neg asked) (Rationed.read_of_reads reads)
      _ = _ := Decoded.serve_of_answer serves rfl
  refine ⟨_, served, ?_⟩
  cases restart : kind.rewind s' with
  | mk done first =>
  have leads : (⟨kind, s'⟩ : ByteStream).rewind = (done, ⟨kind, first⟩) := by
    rw [ByteStream.rewind, restart]
  cases leads.symm.trans back
  exact (rewind_decoded .base64 kind _).trans (by rw [restart]; rfl)

/-- Reading up to a limit is one request if that brings a fault, or all that is wanted. -/
theorem Gives.readUpTo {got : Except Fault Bytes} (gives : stream.Gives n got fresh)
    (asked : n ≠ 0) (small : Reader.request (some n) = n)
    (full : ∀ piece, got = .ok piece → piece.length = n) :
    ∃ after, stream.readUpTo (some n) = (got, after) ∧ after.rewind = (.ok (), fresh) := by
  obtain ⟨kind, s⟩ := stream
  obtain ⟨s', answered, back⟩ := gives
  have behind : ∀ next, kind.toReader.readUpTo (some 0) next = (.ok [], next) := by
    intro next
    rw [Reader.readUpTo, if_pos rfl]
  have spent : ∀ {byte : UInt8} {bytes : Bytes}, (byte :: bytes).length = n →
      (some n).map (· - (bytes.length + 1)) = some 0 := by
    rintro byte bytes rfl
    exact congrArg some (Nat.sub_self _)
  have whole : kind.toReader.readUpTo (some n) s = (got, s') := by
    rw [← small] at answered
    fun_cases Reader.readUpTo kind.toReader (some n) s with
    | case1 finished => exact absurd (Option.some.inj finished) asked
    | case2 _ other next reads => exact reads.symm.trans answered
    | case3 _ next reads => exact reads.symm.trans answered
    | case4 _ byte bytes next reads rest last deeper =>
        cases reads.symm.trans answered
        rw [spent (full _ rfl), behind] at deeper
        cases deeper
        rw [List.append_nil]
    | case5 _ byte bytes next reads fault last deeper =>
        cases reads.symm.trans answered
        rw [spent (full _ rfl), behind] at deeper
        cases deeper
  refine ⟨⟨kind, s'⟩, ?_, back⟩
  rw [ByteStream.readUpTo, whole]

end ByteStream

namespace DetectionRun

/-- A detector that finds base64 where one request brings twelve bytes. -/
def requestFinder : Detector where
  name := "request"
  declared := .ofList [.base64]
  look _ := .read 12 fun got => .answer (got.map fun bytes =>
    if bytes.length = 12 then { tag := .base64 } else .unknown)

section FlawedNest

variable {stream fresh last : ByteStream} {detector : Detector} {outcome : Except Fault FormatId}
  {settled : Option FormatId} (unlimited : stream.setLimit none = stream)
  (meets : detector.declared.intersects archiveTags = true)
  (settles : LayerPass.settles? archiveTags outcome = settled)

section Passes

include unlimited meets settles

/-- A pass that goes on behind the failing detector. -/
theorem firstPass_behind_failing {first : Except Fault Bytes} (fails : stream.Gives 8 first fresh)
    (finds : ∃ after, (detector.look archiveTags).run fresh = (outcome, after) ∧
      after.rewind = (.ok (), last)) :
    (firstPass nestTags [failingReader, detector] none stream).result =
        .ok (settled.getD .unknown) ∧
      (firstPass nestTags [failingReader, detector] none stream).stream = last := by
  obtain ⟨next, reads, back⟩ := fails
  have failed : (failingReader.look nestTags).run stream = (.error _, ⟨stream.kind, next⟩) :=
    congrArg (fun answer : Except Fault Bytes × stream.State =>
      (Except.error (Fault.foreign .brokenPipe "device gone"),
        (⟨stream.kind, answer.2⟩ : ByteStream))) reads
  obtain ⟨behind, looked, back'⟩ := finds
  have asked : nestTags.removeAll failingReader.declared = archiveTags := by decide
  rw [firstPass, unlimited, LayerPass.run_cons_of_useless (by decide) failed back rfl, asked]
  cases settled with
  | some id =>
      rw [LayerPass.run_cons_of_settled meets looked back' settles]
      exact ⟨rfl, rfl⟩
  | none =>
      rw [LayerPass.run_cons_of_useless meets looked back' settles]
      exact ⟨rfl, rfl⟩

/-- A pass of the two that read nothing. -/
theorem observedPass_behind_failing (back : stream.rewind = (.ok (), stream))
    (finds : ∃ after, (detector.look archiveTags).run stream = (outcome, after) ∧
      after.rewind = (.ok (), last)) :
    (observedPass nestTags [failingReader.silenced, detector.silenced] none stream).result =
        .ok (settled.getD .unknown) ∧
      (observedPass nestTags [failingReader.silenced, detector.silenced] none stream).stream =
        stream := by
  obtain ⟨behind, looked, -⟩ := finds
  have failed : failingReader.silenced.look nestTags stream = (.ok .unknown, stream) := rfl
  have heard : detector.silenced.look archiveTags stream =
      (.ok (LayerPass.heard archiveTags outcome), stream) :=
    congrArg (fun answer : Except Fault FormatId × ByteStream =>
      (Except.ok (LayerPass.heard archiveTags answer.1), stream)) looked
  have asked : nestTags.removeAll failingReader.silenced.declared = archiveTags := by decide
  rw [← LayerPass.settles?_heard] at settles
  rw [observedPass, unlimited, LayerPass.observe_cons_of_useless (by decide) failed back rfl, asked]
  cases settled with
  | some id =>
      rw [LayerPass.observe_cons_of_settled meets heard back settles]
      exact ⟨rfl, rfl⟩
  | none =>
      rw [LayerPass.observe_cons_of_useless meets heard back settles]
      exact ⟨rfl, rfl⟩

end Passes

/-- What a table with a window of two bytes makes of what a stream gives. -/
theorem look_archiveTable {got : Except Fault Bytes} (gives : stream.Gives 2 got last)
    (full : ∀ piece, got = .ok piece → piece.length = 2) :
    ∃ after, ((Detector.ofTable archiveTable).look archiveTags).run stream =
      (got.map (archiveTable.detect archiveTags), after) ∧ after.rewind = (.ok (), last) := by
  obtain ⟨after, reads, back⟩ := gives.readUpTo (Nat.succ_ne_zero 1) rfl full
  exact ⟨after, congrArg (fun answer : Except Fault Bytes × ByteStream =>
    (answer.1.map (archiveTable.detect archiveTags), answer.2)) reads, back⟩

/-- What the table takes for base64 settles a layer. -/
theorem settles_base64 {lead : Bytes}
    (detected : archiveTable.detect archiveTags lead = { tag := .base64 }) :
    LayerPass.settles? archiveTags ((Except.ok lead).map (archiveTable.detect archiveTags)) =
      some { tag := .base64 } :=
  settles_archive detected (by decide) (by decide)

/-- A piece that was read has the size of its bytes. -/
theorem length_of_ok {bytes : Bytes} {size : Nat} (length : bytes.length = size) :
    ∀ piece, (.ok bytes : Except Fault Bytes) = .ok piece → piece.length = size := by
  rintro _ ⟨⟩
  exact length

/-- A buffer at its first byte that has kept some bytes of the text. -/
def nestBuffer (kept : Nat) : ByteStream :=
  ⟨Buffered.kind Cursor.kind.toReader,
    ⟨⟨flawedNest, flawedNest.drop kept⟩, (flawedNest.take kept).toArray, 0, none, false⟩⟩

/-- A request to the buffer ends where what the failing detector has read does. -/
theorem requestFinder_felt :
    (∃ last, (run nestTags [failingReader, requestFinder] .empty none 0 (nestBuffer 0)).result =
      .ok ⟨[.unknown], last⟩) ∧
    ∃ last, (observe nestTags [failingReader.silenced, requestFinder.silenced] .empty none 0
      (nestBuffer 0)).result = .ok ⟨[{ tag := .base64 }], last⟩ := by
  have fails : (nestBuffer 0).Gives 8 (.ok (flawedNest.take 8)) (nestBuffer 8) := ⟨_, rfl, rfl⟩
  have finds : ∃ after, (requestFinder.look archiveTags).run (nestBuffer 8) =
      (.ok .unknown, after) ∧ after.rewind = (.ok (), nestBuffer 8) := ⟨_, rfl, rfl⟩
  have finds' : ∃ after, (requestFinder.look archiveTags).run (nestBuffer 0) =
      (.ok { tag := .base64 }, after) ∧ after.rewind = (.ok (), nestBuffer 12) := ⟨_, rfl, rfl⟩
  have base64 : LayerPass.settles? archiveTags (.ok { tag := .base64 }) =
      some { tag := .base64 } := by decide
  obtain ⟨settled, after⟩ := firstPass_behind_failing rfl (by decide) rfl fails finds
  obtain ⟨settled', after'⟩ := observedPass_behind_failing rfl (by decide) base64 rfl finds'
  have finished : finish (nestBuffer 8) = .ok (nestBuffer 8) := rfl
  have finished' : finish (nestBuffer 0) = .ok (nestBuffer 0) := rfl
  rw [← after] at finished
  rw [← after'] at finished'
  exact ⟨⟨_, (Completes.undecoded settled rfl finished).result⟩, _,
    observe_of_undecoded settled' rfl finished'⟩

/-- Behind the failing detector the buffer hands out eight bytes first, and the outer decoder
what these encode. -/
theorem completes_nestBuffer :
    ∃ last, Completes nestTags [failingReader, .ofTable archiveTable]
      (.register .empty .base64) none 2 (nestBuffer 0)
      ⟨[{ tag := .base64 }, { tag := .base64 }, { tag := archiveTag }], last⟩ := by
  have fails : (nestBuffer 0).Gives 8 (.ok (flawedNest.take 8)) (nestBuffer 8) := ⟨_, rfl, rfl⟩
  have finds : (nestBuffer 8).Gives 2 (.ok [0x56, 0x55]) (nestBuffer 8) := ⟨_, rfl, rfl⟩
  have kept : (nestBuffer 8).Gives 1024 (.ok (flawedNest.take 8)) (nestBuffer 8) := ⟨_, rfl, rfl⟩
  have view : ((nestBuffer 8).decoded .base64).Gives 1024
      (.ok [0x55, 0x45, 0x73, 0x44, 0x42, 0x41]) ((nestBuffer 8).decoded .base64) :=
    kept.decoded (Nat.succ_ne_zero 1023) rfl
  have archive : LayerPass.settles? archiveTags
      ((Except.ok [0x50, 0x4B]).map (archiveTable.detect archiveTags)) =
        some { tag := archiveTag } := settles_archive (by decide) (by decide) (by decide)
  have meets : (Detector.ofTable archiveTable).declared.intersects archiveTags = true := by decide
  obtain ⟨outer, after⟩ := firstPass_behind_failing rfl meets (settles_base64 (by decide)) fails
    (look_archiveTable finds (length_of_ok rfl))
  obtain ⟨inner, after'⟩ := firstPass_behind_failing rfl meets (settles_base64 (by decide))
    (kept.decoded (Nat.succ_ne_zero 7) rfl)
    (look_archiveTable (kept.decoded (Nat.succ_ne_zero 1) rfl) (length_of_ok rfl))
  obtain ⟨innermost, after''⟩ := firstPass_behind_failing rfl meets archive
    (view.decoded (Nat.succ_ne_zero 7) rfl)
    (look_archiveTable (view.decoded (Nat.succ_ne_zero 1) rfl) (length_of_ok rfl))
  have third : Completes nestTags [failingReader, .ofTable archiveTable]
      (.register .empty .base64) none 0 (((nestBuffer 8).decoded .base64).decoded .base64)
      ⟨[{ tag := archiveTag }], ((nestBuffer 8).decoded .base64).decoded .base64⟩ :=
    .undecoded innermost (by decide) (by rw [after'']; rfl)
  have second : Completes nestTags [failingReader, .ofTable archiveTable]
      (.register .empty .base64) none 1 ((nestBuffer 8).decoded .base64)
      ⟨[{ tag := .base64 }, { tag := archiveTag }],
        ((nestBuffer 8).decoded .base64).decoded .base64⟩ :=
    .deeper inner rfl (by rw [after']; exact third)
  exact ⟨_, .deeper outer rfl (by rw [after]; exact second)⟩

/-- In silence the buffer hands out the text in one piece, and the outer decoder refuses it. -/
theorem observe_nestBuffer :
    ∃ last, (observe nestTags [failingReader.silenced, (Detector.ofTable archiveTable).silenced]
      (.register .empty .base64) none 2 (nestBuffer 0)).result =
        .ok ⟨[{ tag := .base64 }, { tag := .base64 }, .unknown], last⟩ := by
  have finds : (nestBuffer 0).Gives 2 (.ok [0x56, 0x55]) (nestBuffer 2) := ⟨_, rfl, rfl⟩
  have whole : (nestBuffer 0).Gives 1024 (.ok flawedNest) (nestBuffer 12) := ⟨_, rfl, rfl⟩
  have view : ((nestBuffer 0).decoded .base64).Gives 1024 (.error .badBase64)
      ((nestBuffer 12).decoded .base64) := whole.decoded (Nat.succ_ne_zero 1023) rfl
  have meets : (Detector.ofTable archiveTable).declared.intersects archiveTags = true := by decide
  obtain ⟨outer, after⟩ := observedPass_behind_failing rfl meets (settles_base64 (by decide)) rfl
    (look_archiveTable finds (length_of_ok rfl))
  obtain ⟨inner, after'⟩ := observedPass_behind_failing rfl meets (settles_base64 (by decide)) rfl
    (look_archiveTable (whole.decoded (Nat.succ_ne_zero 1) rfl) (length_of_ok rfl))
  obtain ⟨innermost, after''⟩ := observedPass_behind_failing rfl meets rfl rfl
    (look_archiveTable (view.decoded (Nat.succ_ne_zero 1) rfl) nofun)
  have third : (observe nestTags
      [failingReader.silenced, (Detector.ofTable archiveTable).silenced]
      (.register .empty .base64) none 0 (((nestBuffer 0).decoded .base64).decoded .base64)).result =
        .ok ⟨[.unknown], ((nestBuffer 0).decoded .base64).decoded .base64⟩ :=
    observe_of_undecoded innermost (by decide) (by rw [after'']; rfl)
  have second := observe_of_deeper inner rfl (by rw [after']; exact third)
  exact ⟨_, observe_of_deeper outer rfl (by rw [after]; exact second)⟩

/-- **What a failing detector has read is felt** in the pieces in which a buffer hands out its
content from then on: by a detector that judges by what one request brings, and, inside a base64
text with a flaw, by a table of rules. -/
theorem reading_felt_in_pieces :
    (ByteStream.buffered Cursor.kind.toReader (.start flawedNest) none).Repeats flawedNest ∧
    List.Forall₂ Detector.ReplacedBy [failingReader, requestFinder]
      [failingReader.silenced, requestFinder.silenced] ∧
    List.Forall₂ Detector.ReplacedBy [failingReader, .ofTable archiveTable]
      [failingReader.silenced, (Detector.ofTable archiveTable).silenced] ∧
    (∃ first second,
      (run nestTags [failingReader, requestFinder] .empty none 0
        (.buffered Cursor.kind.toReader (.start flawedNest) none)).result = .ok first ∧
      (observe nestTags [failingReader.silenced, requestFinder.silenced] .empty none 0
        (.buffered Cursor.kind.toReader (.start flawedNest) none)).result = .ok second ∧
      first.layers = [.unknown] ∧ second.layers = [{ tag := .base64 }] ∧
      first.layers ≠ second.layers) ∧
    ∃ first second,
      (run nestTags [failingReader, .ofTable archiveTable] (.register .empty .base64) none 2
        (.buffered Cursor.kind.toReader (.start flawedNest) none)).result = .ok first ∧
      (observe nestTags [failingReader.silenced, (Detector.ofTable archiveTable).silenced]
        (.register .empty .base64) none 2
        (.buffered Cursor.kind.toReader (.start flawedNest) none)).result = .ok second ∧
      first.layers = [{ tag := .base64 }, { tag := .base64 }, { tag := archiveTag }] ∧
      second.layers = [{ tag := .base64 }, { tag := .base64 }, .unknown] ∧
      first.layers ≠ second.layers := by
  obtain ⟨⟨first, result⟩, second, observed⟩ := requestFinder_felt
  obtain ⟨third, completes⟩ := completes_nestBuffer
  obtain ⟨fourth, observed'⟩ := observe_nestBuffer
  have apart : ([.unknown] : List FormatId) ≠ [{ tag := .base64 }] := by decide
  have apart' : ([{ tag := .base64 }, { tag := .base64 }, { tag := archiveTag }] : List FormatId) ≠
      [{ tag := .base64 }, { tag := .base64 }, .unknown] := by decide
  exact ⟨buffered_repeats (Cursor.shows (.start flawedNest)),
    .cons .silenced (.cons .silenced .nil), .cons .silenced (.cons .silenced .nil),
    ⟨_, _, result, observed, rfl, rfl, apart⟩,
    _, _, completes.result, observed', rfl, rfl, apart'⟩

end FlawedNest

end DetectionRun

end Discern
