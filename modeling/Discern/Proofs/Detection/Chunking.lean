import Discern.Proofs.Decoder.Base64Flow
import Discern.Proofs.Detection.Truncation

/-!
# Detection does not depend on how content is chunked

Two streams over one content may hand it out in different pieces.  The detectors of the
library read up to a limit before they judge, and what that comes to depends on the flow of a
stream alone, so runs on both streams come to the same layers and hand back the same content
(`DetectionRun.run_chunked_alike`).

Decoders are asked for pieces themselves, by the decoders inside them.  Those that make a flow
of a flow whatever the pieces are (`Decoder.Converts`) pass no difference on.  The base64
decoder does not over a text with a flaw, where the bytes in front of its failure depend on
the requests: what is decoded inside of such a text does depend on the pieces
(`DetectionRun.layers_differ_inside_flaw`).
-/

namespace Discern

/-- **A stream that repeats a content:** its requests hand out the content in pieces of any
sizes, none of them empty before the end, and every rewind brings back all of it. -/
structure StreamKind.Repeats {σ : Type} (kind : StreamKind σ) (content : Bytes)
    (left : σ → Bytes → Prop) : Prop extends kind.Replays (· = none) content left where
  shows : ∀ {s rest}, left s rest → kind.toReader.Shows s (some rest)

/-- A stream at the first byte of a content that it repeats. -/
def ByteStream.Repeats (content : Bytes) (stream : ByteStream) : Prop :=
  ∃ left, stream.kind.Repeats content left ∧ left stream.state content

/-- **A decoder that makes a flow of a flow,** in whatever pieces its input comes in and its
output is asked for. -/
def Decoder.Converts (decoder : Decoder) (convert : Flow → Flow) : Prop :=
  ∀ {base : ByteStream} {input : Flow}, base.Brings False input →
    (base.decoded decoder).Brings False (convert input)

/-- A registry of such decoders, which may include the base64 decoder. -/
def DecoderRegistry.ConvertsBy (decoders : DecoderRegistry) (convert : Decoder → Flow → Flow) :
    Prop :=
  ∀ decoder ∈ decoders.decoders, decoder.Converts (convert decoder) ∨
    decoder = .base64 ∧ convert decoder = Base64.flow

/-- **Nothing is decoded inside a base64 text with a flaw.**  The last decoder comes first, and
below each decoder is the flow that those behind it make of the content. -/
def DecodesUnflawed (convert : Decoder → Flow → Flow) (content : Bytes)
    (stack : List Decoder) : Prop :=
  ∀ above below, stack = above ++ .base64 :: below → above ≠ [] →
    ¬ Base64.Flawed (below.foldr convert ⟨content, none⟩).bytes

section Stack

variable {convert : Decoder → Flow → Flow} {content : Bytes} {stack : List Decoder}
  {base : ByteStream}

/-- What is unflawed for all decoders is so for the ones that come first. -/
theorem DecodesUnflawed.inside {above : List Decoder}
    (unflawed : DecodesUnflawed convert content (above ++ stack)) :
    DecodesUnflawed convert content stack := by
  rintro more below rfl some_above
  exact unflawed (above ++ more) below (List.append_assoc ..).symm
    (List.append_ne_nil_of_right_ne_nil above some_above)

variable (converts : ∀ decoder ∈ stack, decoder.Converts (convert decoder) ∨
  decoder = .base64 ∧ convert decoder = Base64.flow) (shown : base.Shows (some content))
include converts shown

/-- Without a flaw views bring what their decoders make of the content. -/
theorem brings_of_unflawed
    (unflawed : ∀ above below, stack = above ++ .base64 :: below →
      ¬ Base64.Flawed (below.foldr convert ⟨content, none⟩).bytes) :
    (stack.foldr (fun decoder below => below.decoded decoder) base).Brings False
      (stack.foldr convert ⟨content, none⟩) := by
  induction stack with
  | nil => exact Reader.brings_iff_shows.mpr shown
  | cons decoder stack ih =>
      obtain ⟨converted, others⟩ := List.forall_mem_cons.mp converts
      have below := ih others fun above below same =>
        unflawed (decoder :: above) below (congrArg (decoder :: ·) same)
      rw [List.foldr_cons, List.foldr_cons]
      rcases converted with converts | ⟨rfl, same⟩
      · exact converts below
      · rw [same]
        exact Reader.Brings.mono (unflawed [] stack rfl) (Decoder.base64_brings below)

/-- The innermost view may still fail early. -/
theorem DecodesUnflawed.exists_brings (unflawed : DecodesUnflawed convert content stack) :
    ∃ early, (stack.foldr (fun decoder below => below.decoded decoder) base).Brings early
      (stack.foldr convert ⟨content, none⟩) := by
  cases stack with
  | nil => exact ⟨False, Reader.brings_iff_shows.mpr shown⟩
  | cons decoder stack =>
      obtain ⟨converted, others⟩ := List.forall_mem_cons.mp converts
      have below := brings_of_unflawed others shown fun above below same =>
        unflawed (decoder :: above) below (congrArg (decoder :: ·) same) (List.cons_ne_nil _ _)
      rw [List.foldr_cons, List.foldr_cons]
      rcases converted with converts | ⟨rfl, same⟩
      · exact ⟨False, converts below⟩
      · rw [same]
        exact ⟨_, Decoder.base64_brings below⟩

end Stack

/-- **A detector that judges by what it has read up to a limit.** -/
def Detector.Judges (detector : Detector) : Prop :=
  ∀ asked, (∃ outcome, detector.look asked = .answer outcome) ∨
    ∃ limit verdict, detector.look asked = .judge limit verdict

/-- The detector of a library reads up to its limit and judges what it has read. -/
theorem Detector.ofLibrary_judges (library : Library) (limit : Option Nat) :
    (ofLibrary library limit).Judges :=
  fun asked => .inr ⟨limit, library.detect asked, rfl⟩

/-- The detector of a table reads as far as its widest rule and judges what it has read. -/
theorem Detector.ofTable_judges (table : RuleTable) : (ofTable table).Judges := by
  intro asked
  by_cases nothing : (table.enabled asked).isEmpty = true
  · exact .inl ⟨_, if_pos nothing⟩
  · exact .inr ⟨_, _, if_neg nothing⟩

/-- Such a detector cannot tell streams apart from which the same is read. -/
theorem Detector.Judges.alike {detector : Detector} (judges : detector.Judges) (asked : TagSet)
    {one other : ByteStream} (same : ∀ limit, (one.readUpTo limit).1 = (other.readUpTo limit).1) :
    ((detector.look asked).run one).1 = ((detector.look asked).run other).1 := by
  obtain ⟨outcome, looks⟩ | ⟨limit, verdict, looks⟩ := judges asked
  · rw [looks]
    rfl
  · rw [looks]
    exact congrArg (Except.map verdict) (same limit)

/-- **Streams in lockstep:** the same is read from them, and after any look they can be rewound
to streams in lockstep again. -/
structure Lockstep (alike : ByteStream → ByteStream → Prop) : Prop where
  reads : ∀ {one other}, alike one other → ∀ limit,
    (one.readUpTo limit).1 = (other.readUpTo limit).1
  rewinds : ∀ {one other}, alike one other → ∀ probe : Probe,
    (probe.run one).2.rewind.1 = .ok () ∧ (probe.run other).2.rewind.1 = .ok () ∧
      alike (probe.run one).2.rewind.2 (probe.run other).2.rewind.2

/-- **Passes over streams in lockstep** settle the layer alike. -/
theorem LayerPass.run_alike {alike : ByteStream → ByteStream → Prop} (lockstep : Lockstep alike)
    {detectors : List Detector} (judges : ∀ detector ∈ detectors, detector.Judges)
    (asked : TagSet) {one other : ByteStream} (start : alike one other) :
    ∃ id, (run asked detectors one).result = .ok id ∧
      (run asked detectors other).result = .ok id ∧
      alike (run asked detectors one).stream (run asked detectors other).stream := by
  induction detectors generalizing asked one other with
  | nil => exact ⟨.unknown, rfl, rfl, start⟩
  | cons detector rest ih =>
      obtain ⟨first, later⟩ := List.forall_mem_cons.mp judges
      cases meets : detector.declared.intersects asked with
      | false =>
          rw [run_cons_of_apart meets, run_cons_of_apart meets]
          exact ih later asked start
      | true =>
          have same := first.alike asked (lockstep.reads start)
          obtain ⟨back, back', again⟩ := lockstep.rewinds start (detector.look asked)
          cases looked : (detector.look asked).run one with
          | mk outcome after =>
          cases looked' : (detector.look asked).run other with
          | mk outcome' after' =>
          rw [looked, looked'] at same again
          rw [looked] at back
          rw [looked'] at back'
          obtain rfl : outcome = outcome' := same
          cases settled : settles? asked outcome with
          | some id =>
              rw [run_cons_of_settled meets looked (Prod.ext back rfl) settled,
                run_cons_of_settled meets looked' (Prod.ext back' rfl) settled]
              exact ⟨id, rfl, rfl, again⟩
          | none =>
              rw [run_cons_of_useless meets looked (Prod.ext back rfl) settled,
                run_cons_of_useless meets looked' (Prod.ext back' rfl) settled]
              exact ih later _ again

namespace DetectionRun

section Run

variable {σ : Type} {kind : StreamKind σ} {content : Bytes} {left : σ → Bytes → Prop}
  (repeats : kind.Repeats content left) {enabled : TagSet} {detectors : List Detector}
  {decoders : DecoderRegistry} {recursion : Nat} {stack : List Decoder} {stream : ByteStream}
include repeats

/-- Lifting a limit that is not there leaves views opened. -/
theorem opened_setLimit_none (opened : Opened kind content left none stack stream) :
    Opened kind content left none stack (stream.setLimit none) :=
  opened.setLimit repeats.toReplays.follows (fun _ _ share none_given => by rw [none_given]; rfl)
    rfl

/-- A run over such views ends with them opened anew. -/
theorem finish_opened (opened : Opened kind content left none stack stream) :
    ∃ last, finish stream = .ok last ∧ Opened kind content left none stack last :=
  finish_ok repeats.toReplays (opened_setLimit_none repeats opened)

/-- A layer without a decoder completes the run. -/
theorem exists_completes_of_undecoded {id : FormatId}
    (settled : (firstPass enabled detectors none stream).result = .ok id)
    (after : Opened kind content left none stack (firstPass enabled detectors none stream).stream)
    (absent : decoders.get? id.tag = none) :
    ∃ detection, Completes enabled detectors decoders none recursion stream detection ∧
      Opened kind content left none (decoders.unwrapping detection.layers ++ stack)
        detection.stream := by
  obtain ⟨last, finished, again⟩ := finish_opened repeats after
  refine ⟨_, .undecoded settled absent finished, ?_⟩
  rwa [DecoderRegistry.unwrapping_cons_of_none absent]

/-- **A run over a stream that repeats its content** comes to layers, and hands back the views
of their decoders, opened anew. -/
theorem exists_completes_opened (enabled : TagSet) (detectors : List Detector)
    (decoders : DecoderRegistry) (recursion : Nat)
    (opened : Opened kind content left none stack stream) :
    ∃ detection, Completes enabled detectors decoders none recursion stream detection ∧
      Opened kind content left none (decoders.unwrapping detection.layers ++ stack)
        detection.stream := by
  induction recursion generalizing stack stream with
  | zero =>
      obtain ⟨id, settled, after, -⟩ := LayerPass.run_pass repeats.toReplays detectors enabled
        (opened_setLimit_none repeats opened)
      cases found : decoders.get? id.tag with
      | none => exact exists_completes_of_undecoded repeats settled after found
      | some decoder =>
          obtain ⟨last, finished, again⟩ := finish_opened repeats (Opened.decoded after)
          refine ⟨_, .bounded settled found finished, ?_⟩
          rwa [DecoderRegistry.unwrapping_cons found]
  | succ recursion ih =>
      obtain ⟨id, settled, after, -⟩ := LayerPass.run_pass repeats.toReplays detectors enabled
        (opened_setLimit_none repeats opened)
      cases found : decoders.get? id.tag with
      | none => exact exists_completes_of_undecoded repeats settled after found
      | some decoder =>
          obtain ⟨inner, inside, again⟩ := ih (Opened.decoded after)
          refine ⟨_, .deeper settled found inside, ?_⟩
          rwa [DecoderRegistry.unwrapping_cons found, List.append_assoc]

end Run

section Alike

variable {σ τ : Type} {kind : StreamKind σ} {kind' : StreamKind τ} {content : Bytes}
  {left : σ → Bytes → Prop} {left' : τ → Bytes → Prop}
  (one : kind.Repeats content left) (other : kind'.Repeats content left')
  {decoders : DecoderRegistry} {convert : Decoder → Flow → Flow}
  (converts : decoders.ConvertsBy convert) {stack : List Decoder}
  (registered : ∀ decoder ∈ stack, decoder ∈ decoders.decoders)
include one other converts registered

/-- Views of the same decoders, opened anew on both streams, are in lockstep. -/
theorem lockstep_opened (unflawed : DecodesUnflawed convert content stack) :
    Lockstep fun s t => Opened kind content left none stack s ∧
      Opened kind' content left' none stack t where
  reads := by
    rintro s t ⟨opened, opened'⟩ limit
    obtain ⟨base, first, rfl⟩ := opened_none_iff.mp opened
    obtain ⟨base', first', rfl⟩ := opened_none_iff.mp opened'
    have known := fun decoder member => converts decoder (registered decoder member)
    have shown : ByteStream.Shows ⟨kind, base⟩ (some content) := one.shows first
    have shown' : ByteStream.Shows ⟨kind', base'⟩ (some content) := other.shows first'
    obtain ⟨early, brings⟩ := unflawed.exists_brings known shown
    obtain ⟨early', brings'⟩ := unflawed.exists_brings known shown'
    rw [brings.readUpTo, brings'.readUpTo]
  rewinds := by
    rintro s t ⟨opened, opened'⟩ probe
    obtain ⟨back, again⟩ :=
      (opened.reading.run one.toReplays.follows probe).rewind one.toReplays
    obtain ⟨back', again'⟩ :=
      (opened'.reading.run other.toReplays.follows probe).rewind other.toReplays
    exact ⟨back, back', again, again'⟩

variable {enabled : TagSet} {detectors : List Detector}
  (judges : ∀ detector ∈ detectors, detector.Judges) {recursion : Nat} {s t : ByteStream}
include judges

/-- **A run on the other stream** comes to the same layers as long as nothing is decoded inside
a text with a flaw.  The induction is on what the run has done on the one. -/
theorem Completes.alike {detection : Detection}
    (completes : Completes enabled detectors decoders none recursion s detection)
    (opened : Opened kind content left none stack s)
    (opened' : Opened kind' content left' none stack t) {count : Nat}
    (unflawed : DecodesUnflawed convert content
      (decoders.unwrapping (detection.layers.take count) ++ stack)) :
    ∃ detection', Completes enabled detectors decoders none recursion t detection' ∧
      detection.layers.take (count + 1) = detection'.layers.take (count + 1) := by
  have passes : ∀ {s t : ByteStream} {stack : List Decoder} {id : FormatId},
      (∀ decoder ∈ stack, decoder ∈ decoders.decoders) →
      DecodesUnflawed convert content stack →
      Opened kind content left none stack s → Opened kind' content left' none stack t →
      (firstPass enabled detectors none s).result = .ok id →
      (firstPass enabled detectors none t).result = .ok id ∧
        Opened kind content left none stack (firstPass enabled detectors none s).stream ∧
        Opened kind' content left' none stack (firstPass enabled detectors none t).stream := by
    intro s t stack id registered unflawed opened opened' settled
    obtain ⟨same, result, result', after⟩ :=
      LayerPass.run_alike (lockstep_opened one other converts registered unflawed) judges enabled
        ⟨opened_setLimit_none one opened, opened_setLimit_none other opened'⟩
    obtain rfl : id = same := Except.ok.inj (settled.symm.trans result)
    exact ⟨result', after⟩
  induction completes generalizing stack t count with
  | undecoded settled absent finished =>
      obtain ⟨settled', -, after⟩ := passes registered unflawed.inside opened opened' settled
      obtain ⟨last, finished, -⟩ := finish_opened other after
      exact ⟨_, .undecoded settled' absent finished, rfl⟩
  | @bounded s last id decoder settled found finished =>
      obtain ⟨settled', -, after⟩ := passes registered unflawed.inside opened opened' settled
      have view : Opened kind' content left' none (decoder :: stack) _ := Opened.decoded after
      obtain ⟨last, finished, -⟩ := finish_opened other view
      exact ⟨_, .bounded settled' found finished, rfl⟩
  | @deeper recursion s id decoder inner settled found inside ih =>
      obtain ⟨settled', before, after⟩ :=
        passes registered unflawed.inside opened opened' settled
      cases count with
      | zero =>
          -- The view may be inside a flaw, where each run comes to layers of its own.
          have view : Opened kind' content left' none (decoder :: stack) _ := Opened.decoded after
          obtain ⟨inner', inside', -⟩ :=
            exists_completes_opened other enabled detectors decoders recursion view
          exact ⟨_, .deeper settled' found inside', rfl⟩
      | succ count =>
          rw [List.take_succ_cons, DecoderRegistry.unwrapping_cons found, List.append_assoc,
            List.singleton_append] at unflawed
          have known := List.forall_mem_cons.mpr ⟨DecoderRegistry.mem_of_get? found, registered⟩
          obtain ⟨inner', inside', same⟩ :=
            ih known (Opened.decoded before) (Opened.decoded after) unflawed
          exact ⟨_, .deeper settled' found inside', congrArg (id :: ·) same⟩

end Alike

/-- **Detection does not depend on how content is chunked.**  Over any two streams that repeat
the same content, runs with the detectors of the library come to layers.  The layers are the
same up to the first one behind a decoder that is applied inside a base64 text with a flaw.  If
no decoder is, all layers are the same, and so is the content that is handed back. -/
theorem run_chunked_alike (enabled : TagSet) (detectors : List Detector)
    (decoders : DecoderRegistry) (recursion : Nat) (content : Bytes) (one other : ByteStream)
    (convert : Decoder → Flow → Flow)
    (known : ∀ detector ∈ detectors, (∃ library limit, detector = .ofLibrary library limit) ∨
      ∃ table, detector = .ofTable table)
    (converts : decoders.ConvertsBy convert)
    (repeats : one.Repeats content) (repeats' : other.Repeats content) :
    ∃ first second,
      (run enabled detectors decoders none recursion one).result = .ok first ∧
      (run enabled detectors decoders none recursion other).result = .ok second ∧
      (∀ count,
        DecodesUnflawed convert content (decoders.unwrapping (first.layers.take count)) →
          first.layers.take (count + 1) = second.layers.take (count + 1)) ∧
      (DecodesUnflawed convert content (decoders.unwrapping first.layers) →
        first.layers = second.layers ∧ first.content = second.content) := by
  have judges : ∀ detector ∈ detectors, detector.Judges := by
    intro detector member
    obtain ⟨library, limit, rfl⟩ | ⟨table, rfl⟩ := known detector member
    · exact Detector.ofLibrary_judges library limit
    · exact Detector.ofTable_judges table
  obtain ⟨left, repeats, start⟩ := repeats
  obtain ⟨left', repeats', start'⟩ := repeats'
  have opened : Opened one.kind content left none [] one := .base start
  have opened' : Opened other.kind content left' none [] other := .base start'
  obtain ⟨first, completes, inner⟩ :=
    exists_completes_opened repeats enabled detectors decoders recursion opened
  obtain ⟨second, completes', inner'⟩ :=
    exists_completes_opened repeats' enabled detectors decoders recursion opened'
  have nothing : ∀ decoder ∈ ([] : List Decoder), decoder ∈ decoders.decoders :=
    fun _ member => absurd member List.not_mem_nil
  have beginnings : ∀ count,
      DecodesUnflawed convert content (decoders.unwrapping (first.layers.take count)) →
        first.layers.take (count + 1) = second.layers.take (count + 1) := by
    intro count unflawed
    obtain ⟨found, again, same⟩ := completes.alike repeats repeats' converts nothing judges opened
      opened' (by rwa [List.append_nil])
    obtain rfl : found = second := Except.ok.inj (again.result.symm.trans completes'.result)
    exact same
  refine ⟨first, second, completes.result, completes'.result, beginnings, fun unflawed => ?_⟩
  have same : first.layers = second.layers := by
    have all := beginnings first.layers.length (by rwa [List.take_length])
    rw [List.take_of_length_le (Nat.le_succ _)] at all
    have lengths := congrArg List.length all
    rw [List.length_take] at lengths
    rwa [List.take_of_length_le (by omega)] at all
  refine ⟨same, ?_⟩
  rw [List.append_nil] at inner inner'
  rw [← same] at inner'
  have registered : ∀ decoder ∈ decoders.unwrapping first.layers, decoder ∈ decoders.decoders := by
    intro decoder member
    obtain ⟨id, -, found⟩ := List.mem_filterMap.mp (List.mem_reverse.mp member)
    exact DecoderRegistry.mem_of_get? found
  have lockstep := lockstep_opened repeats repeats' converts registered unflawed
  rw [Detection.content, Detection.content, lockstep.reads ⟨inner, inner'⟩]

end DetectionRun

section Sparing

/-- **A content in memory,** handed out in pieces of at most `size` bytes. -/
def Cursor.sparing (size : Nat) : StreamKind Cursor where
  read n s := (.ok (s.rest.take (min n size)), { s with rest := s.rest.drop (min n size) })
  supply s := s.rest.length
  taken_le n s := by
    simp only [taken_ok, List.length_take]
    omega
  spends n s := by
    simp only [taken_ok, List.length_take, List.length_drop]
    omega
  rewind s := (.ok (), { s with rest := s.content })
  limit _ s := s

/-- A content in memory is repeated in pieces of any size. -/
theorem Cursor.sparing_repeats {size : Nat} (some_size : size ≠ 0) (content : Bytes) :
    (sparing size).Repeats content (Left content) where
  read := by
    rintro s rest ⟨same, rfl⟩ n
    exact ⟨_, _, rfl, (List.take_append_drop (min n size) s.rest).symm, same, rfl⟩
  rewind := by
    rintro s rest ⟨same, -⟩
    exact ⟨rfl, same, same⟩
  limit := fun _ inside => inside
  shows := by
    rintro s rest ⟨-, rfl⟩
    have delivery : (sparing size).toReader.Delivery fun s content => content = some s.rest := by
      constructor
      · rintro s content n bytes rfl answered
        obtain rfl : s.rest.take (min n size) = bytes := Except.ok.inj answered
        refine ⟨⟨some (s.rest.drop (min n size)), ?_, rfl⟩, fun empty more => ?_⟩
        · rw [Option.map_some, List.take_append_drop]
        · have nothing : s.rest = [] :=
            (List.take_eq_nil_iff.mp empty).resolve_left (by omega)
          rw [nothing]
      · intro s content n fault _ failed
        cases failed
    exact delivery.shows rfl

theorem Cursor.repeats (content : Bytes) : kind.Repeats content (Left content) where
  toReplays := replays content _
  shows := (restores content).shows

theorem ByteStream.ofBytes_repeats (content : Bytes) : (ofBytes content).Repeats content :=
  ⟨_, Cursor.repeats content, rfl, rfl⟩

end Sparing

namespace DetectionRun

/-- A table that finds base64 by the first byte of `nestedBase64`. -/
def nestedTable : RuleTable := ⟨[⟨.base64, .literal [0x59]⟩]⟩

/-- Nested base64 is detected alike as a whole and in pieces of three bytes. -/
theorem run_chunked_alike_nestedBase64 :
    (∀ detector ∈ [Detector.ofTable nestedTable],
      (∃ library limit, detector = .ofLibrary library limit) ∨
        ∃ table, detector = .ofTable table) ∧
    (DecoderRegistry.register .empty .base64).ConvertsBy (fun _ => Base64.flow) ∧
    (ByteStream.ofBytes nestedBase64).Repeats nestedBase64 ∧
    (⟨Cursor.sparing 3, .start nestedBase64⟩ : ByteStream).Repeats nestedBase64 ∧
    ∃ first second,
      (run (.ofList [.base64]) [.ofTable nestedTable] (.register .empty .base64) none 1
        (.ofBytes nestedBase64)).result = .ok first ∧
      (run (.ofList [.base64]) [.ofTable nestedTable] (.register .empty .base64) none 1
        ⟨Cursor.sparing 3, .start nestedBase64⟩).result = .ok second ∧
      first.layers = second.layers ∧ first.content = second.content := by
  have known : ∀ detector ∈ [Detector.ofTable nestedTable],
      (∃ library limit, detector = .ofLibrary library limit) ∨
        ∃ table, detector = .ofTable table :=
    fun detector member => .inr ⟨nestedTable, List.mem_singleton.mp member⟩
  have converts : (DecoderRegistry.register .empty .base64).ConvertsBy fun _ => Base64.flow :=
    fun decoder member => .inr ⟨List.mem_singleton.mp member, rfl⟩
  have sparing : (⟨Cursor.sparing 3, .start nestedBase64⟩ : ByteStream).Repeats nestedBase64 :=
    ⟨_, Cursor.sparing_repeats (Nat.succ_ne_zero 2) nestedBase64, rfl, rfl⟩
  have unflawed : ¬ Base64.Flawed nestedBase64 := by decide
  obtain ⟨first, second, result, result', -, alike⟩ :=
    run_chunked_alike (.ofList [.base64]) [.ofTable nestedTable] (.register .empty .base64) 1
      nestedBase64 _ _ _ known converts (ByteStream.ofBytes_repeats nestedBase64) sparing
  refine ⟨known, converts, ByteStream.ofBytes_repeats _, sparing, first, second, result, result',
    alike ?_⟩
  -- Two layers at most have a decoder, so below the outer one is the content itself.
  intro above below views some_above
  have few := (Completes.of_result result).length_le
  have lengths := congrArg List.length views
  have views_le : ((DecoderRegistry.register .empty .base64).unwrapping first.layers).length ≤
      first.layers.length := by
    rw [DecoderRegistry.unwrapping, List.length_reverse]
    exact List.length_filterMap_le _ _
  have above_length := List.length_pos_iff.mpr some_above
  rw [List.length_append, List.length_cons] at lengths
  obtain rfl : below = [] := List.length_eq_zero_iff.mp (by omega)
  exact unflawed

/-- The base64 of a base64 text that begins with that of `PK`, with a flaw behind it. -/
def flawedNest : Bytes :=
  [0x56, 0x55, 0x56, 0x7A, 0x52, 0x45, 0x4A, 0x42, 0x2A, 0x2A, 0x2A, 0x2A]

/-- The tag of archives, which begin with `PK`. -/
def archiveTag : FormatTag := .ofString "zip"

/-- A table that finds base64 and archives. -/
def archiveTable : RuleTable :=
  ⟨[⟨.base64, .literal [0x55]⟩, ⟨.base64, .literal [0x56]⟩, ⟨archiveTag, .literal [0x50, 0x4B]⟩]⟩

def archiveTags : TagSet := .ofList [.base64, archiveTag]

/-- What the table finds settles a layer if it is asked for. -/
theorem settles_archive {lead : Bytes} {tag : FormatTag}
    (detected : archiveTable.detect archiveTags lead = { tag })
    (identified : ({ tag } : FormatId).isUnknown = false)
    (wanted : archiveTags.contains tag = true) :
    LayerPass.settles? archiveTags ((Except.ok lead).map (archiveTable.detect archiveTags)) =
      some { tag } :=
  LayerPass.settles?_eq_some_iff.mpr
    ⟨congrArg Except.ok detected, identified, TagSet.contains_iff.mp wanted⟩

/-- Base64 views on the text. -/
def nestViews (kind : StreamKind Cursor) (stack : List Decoder) : ByteStream :=
  stack.foldr (fun decoder below => below.decoded decoder) ⟨kind, .start flawedNest⟩

section Nest

variable {kind : StreamKind Cursor} (repeats : kind.Repeats flawedNest (Cursor.Left flawedNest))
include repeats

omit repeats in
/-- The views on the nest are opened. -/
theorem opened_nestViews (stack : List Decoder) :
    Opened kind flawedNest (Cursor.Left flawedNest) none stack (nestViews kind stack) :=
  opened_none_iff.mpr ⟨.start flawedNest, ⟨rfl, rfl⟩, rfl⟩

omit repeats in
/-- There are no other views on the nest that are opened. -/
theorem eq_nestViews {stack : List Decoder} {stream : ByteStream}
    (opened : Opened kind flawedNest (Cursor.Left flawedNest) none stack stream) :
    stream = nestViews kind stack := by
  obtain ⟨⟨content, rest⟩, ⟨same, first⟩, views⟩ := opened_none_iff.mp opened
  obtain rfl : content = flawedNest := same
  obtain rfl : rest = flawedNest := first
  exact views

/-- A pass is settled by the first two bytes of what a view shows. -/
theorem firstPass_nestViews (stack : List Decoder) {lead : Except Fault Bytes}
    {settled : Option FormatId}
    (seen : ((nestViews kind stack).readUpTo (some 2)).1 = lead)
    (settles : LayerPass.settles? archiveTags (lead.map (archiveTable.detect archiveTags)) =
      settled) :
    (firstPass archiveTags [.ofTable archiveTable] none (nestViews kind stack)).result =
        .ok (settled.getD .unknown) ∧
      (firstPass archiveTags [.ofTable archiveTable] none (nestViews kind stack)).stream =
        nestViews kind stack := by
  have opened : Opened kind flawedNest (Cursor.Left flawedNest) none stack _ :=
    opened_nestViews stack
  have meets : (Detector.ofTable archiveTable).declared.intersects archiveTags = true := by decide
  obtain ⟨rewound, again⟩ := (opened.reading.run repeats.toReplays.follows
    ((Detector.ofTable archiveTable).look archiveTags)).rewind repeats.toReplays
  obtain ⟨result, last⟩ := LayerPass.run_single meets rewound
  have looked : (((Detector.ofTable archiveTable).look archiveTags).run (nestViews kind stack)).1 =
      lead.map (archiveTable.detect archiveTags) :=
    congrArg (Except.map (archiveTable.detect archiveTags)) seen
  rw [firstPass, eq_nestViews (opened_setLimit_none repeats opened), result, last, looked, settles]
  exact ⟨rfl, eq_nestViews again⟩

/-- The run over the text finds base64 twice, and then what the third view begins with. -/
theorem completes_nestViews {lead : Except Fault Bytes}
    {settled : Option FormatId}
    (seen : ((nestViews kind [.base64, .base64]).readUpTo (some 2)).1 = lead)
    (settles : LayerPass.settles? archiveTags (lead.map (archiveTable.detect archiveTags)) =
      settled)
    (absent : (DecoderRegistry.register .empty .base64).get? (settled.getD .unknown).tag = none) :
    ∃ last, Completes archiveTags [.ofTable archiveTable] (.register .empty .base64) none 2
      (nestViews kind [])
      ⟨[{ tag := .base64 }, { tag := .base64 }, settled.getD .unknown], last⟩ := by
  have brings : (nestViews kind []).Brings False ⟨flawedNest, none⟩ :=
    Reader.brings_iff_shows.mpr (repeats.shows ⟨rfl, rfl⟩)
  have first : ((nestViews kind []).readUpTo (some 2)).1 = .ok [0x56, 0x55] :=
    brings.readUpTo (some 2)
  have second : ((nestViews kind [.base64]).readUpTo (some 2)).1 = .ok [0x55, 0x45] :=
    (Decoder.base64_brings brings).readUpTo (some 2)
  have identified : ({ tag := .base64 } : FormatId).isUnknown = false := by decide
  have wanted : archiveTags.contains .base64 = true := by decide
  obtain ⟨outer, again⟩ :=
    firstPass_nestViews repeats [] first (settles_archive (by decide) identified wanted)
  obtain ⟨inner, again'⟩ :=
    firstPass_nestViews repeats [.base64] second (settles_archive (by decide) identified wanted)
  obtain ⟨third, again''⟩ := firstPass_nestViews repeats [.base64, .base64] seen settles
  have found : (DecoderRegistry.register .empty .base64).get?
      ({ tag := .base64 } : FormatId).tag = some .base64 := rfl
  obtain ⟨last, finished, -⟩ := finish_opened repeats (opened_nestViews [.base64, .base64])
  rw [← again''] at finished
  have innermost : Completes archiveTags [.ofTable archiveTable] (.register .empty .base64) none 0
      ((firstPass archiveTags [.ofTable archiveTable] none
        (nestViews kind [.base64])).stream.decoded .base64) ⟨[settled.getD .unknown], last⟩ := by
    rw [again']
    exact .undecoded third absent finished
  have inside : Completes archiveTags [.ofTable archiveTable] (.register .empty .base64) none 1
      ((firstPass archiveTags [.ofTable archiveTable] none
        (nestViews kind [])).stream.decoded .base64)
      ⟨[{ tag := .base64 }, settled.getD .unknown], last⟩ := by
    rw [again]
    exact .deeper inner found innermost
  exact ⟨last, .deeper outer found inside⟩

end Nest

section Evaluation

open Base64 (Work)

/-- The input of the outer decoder, which has taken some bytes of the text. -/
def nestInput (taken : Nat) : Rationed Cursor :=
  ⟨⟨flawedNest, flawedNest.drop taken⟩, none, taken, false⟩

/-- Asked for all that the inner decoder has room for, the outer one refuses all quads. -/
theorem read_inner_at_once :
    ((nestViews Cursor.kind [.base64, .base64]).read 2).1 = .error .badBase64 := by
  have outer : (Decoded.kind .base64 Cursor.kind).toReader.read 1024 ⟨nestInput 0, none⟩ =
      (.error .badBase64, ⟨nestInput 12, some ⟨flawedNest, [], false, .none⟩⟩) := by
    calc Decoded.read .base64 Cursor.kind.toReader 1024 ⟨nestInput 0, none⟩
      _ = Decoded.serve .base64 Cursor.kind.toReader 1024 Work.fresh (nestInput 0) :=
        Decoded.read_of_begins rfl ..
      _ = Decoded.serve .base64 Cursor.kind.toReader 1024 (Work.fresh.absorb (.ok flawedNest))
          (nestInput 12) := Decoded.serve_of_pull rfl rfl
      _ = _ := Decoded.serve_of_answer rfl rfl
  have inner : Decoded.read .base64 (Decoded.kind .base64 Cursor.kind).toReader 2
      ⟨⟨⟨nestInput 0, none⟩, none, 0, false⟩, none⟩ =
        (.error .badBase64, ⟨⟨⟨nestInput 12, some ⟨flawedNest, [], false, .none⟩⟩, none, 0, false⟩,
          some Work.fresh⟩) := by
    calc Decoded.read .base64 (Decoded.kind .base64 Cursor.kind).toReader 2
          ⟨⟨⟨nestInput 0, none⟩, none, 0, false⟩, none⟩
      _ = Decoded.serve .base64 (Decoded.kind .base64 Cursor.kind).toReader 2 Work.fresh
          ⟨⟨nestInput 0, none⟩, none, 0, false⟩ := Decoded.read_of_begins rfl ..
      _ = Decoded.serve .base64 (Decoded.kind .base64 Cursor.kind).toReader 2
          (Work.fresh.absorb (.error .badBase64))
          ⟨⟨nestInput 12, some ⟨flawedNest, [], false, .none⟩⟩, none, 0, false⟩ :=
        Decoded.serve_of_pull rfl (Rationed.read_of_reads outer)
      _ = _ := Decoded.serve_of_answer rfl rfl
  exact congrArg Prod.fst inner

/-- Given one quad at a time, the outer decoder hands out six symbols before it fails. -/
theorem read_inner_piecewise :
    ((nestViews (Cursor.sparing 4) [.base64, .base64]).read 2).1 = .ok [0x50, 0x4B] := by
  have first : (Decoded.kind .base64 (Cursor.sparing 4)).toReader.read 1024 ⟨nestInput 0, none⟩ =
      (.ok [0x55, 0x45, 0x73], ⟨nestInput 4, some Work.fresh⟩) := by
    calc Decoded.read .base64 (Cursor.sparing 4).toReader 1024 ⟨nestInput 0, none⟩
      _ = Decoded.serve .base64 (Cursor.sparing 4).toReader 1024 Work.fresh (nestInput 0) :=
        Decoded.read_of_begins rfl ..
      _ = Decoded.serve .base64 (Cursor.sparing 4).toReader 1024
          (Work.fresh.absorb (.ok [0x56, 0x55, 0x56, 0x7A])) (nestInput 4) :=
        Decoded.serve_of_pull rfl rfl
      _ = _ := Decoded.serve_of_answer rfl rfl
  have second : (Decoded.kind .base64 (Cursor.sparing 4)).toReader.read 1021
      ⟨nestInput 4, some Work.fresh⟩ =
        (.ok [0x44, 0x42, 0x41], ⟨nestInput 8, some Work.fresh⟩) := by
    calc Decoded.read .base64 (Cursor.sparing 4).toReader 1021 ⟨nestInput 4, some Work.fresh⟩
      _ = Decoded.serve .base64 (Cursor.sparing 4).toReader 1021 Work.fresh (nestInput 4) := rfl
      _ = Decoded.serve .base64 (Cursor.sparing 4).toReader 1021
          (Work.fresh.absorb (.ok [0x52, 0x45, 0x4A, 0x42])) (nestInput 8) :=
        Decoded.serve_of_pull rfl rfl
      _ = _ := Decoded.serve_of_answer rfl rfl
  have inner : Decoded.read .base64 (Decoded.kind .base64 (Cursor.sparing 4)).toReader 2
      ⟨⟨⟨nestInput 0, none⟩, none, 0, false⟩, none⟩ =
        (.ok [0x50, 0x4B], ⟨⟨⟨nestInput 8, some Work.fresh⟩, none, 6, false⟩,
          some ⟨[0x42, 0x41], [0x03], false, .none⟩⟩) := by
    calc Decoded.read .base64 (Decoded.kind .base64 (Cursor.sparing 4)).toReader 2
          ⟨⟨⟨nestInput 0, none⟩, none, 0, false⟩, none⟩
      _ = Decoded.serve .base64 (Decoded.kind .base64 (Cursor.sparing 4)).toReader 2 Work.fresh
          ⟨⟨nestInput 0, none⟩, none, 0, false⟩ := Decoded.read_of_begins rfl ..
      _ = Decoded.serve .base64 (Decoded.kind .base64 (Cursor.sparing 4)).toReader 2
          (Work.fresh.absorb (.ok [0x55, 0x45, 0x73]))
          ⟨⟨nestInput 4, some Work.fresh⟩, none, 3, false⟩ :=
        Decoded.serve_of_pull rfl (Rationed.read_of_reads first)
      _ = Decoded.serve .base64 (Decoded.kind .base64 (Cursor.sparing 4)).toReader 2
          ((Work.fresh.absorb (.ok [0x55, 0x45, 0x73])).absorb (.ok [0x44, 0x42, 0x41]))
          ⟨⟨nestInput 8, some Work.fresh⟩, none, 6, false⟩ :=
        Decoded.serve_of_pull rfl (Rationed.read_of_reads second)
      _ = _ := Decoded.serve_of_answer rfl rfl
  exact congrArg Prod.fst inner

end Evaluation

/-- **The layers inside a flawed text depend on the pieces** in which it is handed out. -/
theorem layers_differ_inside_flaw :
    (ByteStream.ofBytes flawedNest).Repeats flawedNest ∧
    (⟨Cursor.sparing 4, .start flawedNest⟩ : ByteStream).Repeats flawedNest ∧
    ∃ first second,
      (run archiveTags [.ofTable archiveTable] (.register .empty .base64) none 2
        (.ofBytes flawedNest)).result = .ok first ∧
      (run archiveTags [.ofTable archiveTable] (.register .empty .base64) none 2
        ⟨Cursor.sparing 4, .start flawedNest⟩).result = .ok second ∧
      first.layers = [{ tag := .base64 }, { tag := .base64 }, .unknown] ∧
      second.layers = [{ tag := .base64 }, { tag := .base64 }, { tag := archiveTag }] ∧
      first.layers ≠ second.layers := by
  have sparing := Cursor.sparing_repeats (Nat.succ_ne_zero 3) flawedNest
  have identified : ({ tag := archiveTag } : FormatId).isUnknown = false := by decide
  have one : ((nestViews Cursor.kind [.base64, .base64]).readUpTo (some 2)).1 =
      .error .badBase64 := Reader.readUpTo_of_fault (by decide) read_inner_at_once
  have other : ((nestViews (Cursor.sparing 4) [.base64, .base64]).readUpTo (some 2)).1 =
      .ok [0x50, 0x4B] :=
    Reader.readUpTo_of_piece (Nat.succ_ne_zero 1) read_inner_piecewise rfl
  obtain ⟨last, completes⟩ := completes_nestViews (Cursor.repeats flawedNest) one rfl rfl
  obtain ⟨last', completes'⟩ := completes_nestViews sparing other
    (settles_archive (by decide) identified (by decide)) (by decide)
  refine ⟨ByteStream.ofBytes_repeats _, ⟨_, sparing, rfl, rfl⟩, _, _, completes.result,
    completes'.result, rfl, rfl, fun same => ?_⟩
  have third : FormatId.unknown = { tag := archiveTag } :=
    (List.cons.inj (List.cons.inj (List.cons.inj same).2).2).1
  rw [← third] at identified
  cases identified

end DetectionRun

end Discern
