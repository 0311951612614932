import Discern.Proofs.Detection.Outcome
import Discern.Proofs.Stream.Budget
import Discern.Proofs.Stream.Overflow

/-!
# Runs under a read limit

Behind the first layer of a replay buffer no run can fail under a limit: the views of the
decoders keep the buffer within its limit whatever the detectors read (`Unread.run_ok`).  In
the first layer nothing stands between the detectors and the buffer.  A detector that sees
more bytes there than the limit spends the buffer, and the run fails with its rewind
(`LayerPass.SpendsIff`).
-/

namespace Discern

namespace DetectionRun

variable {enabled : TagSet} {detectors : List Detector} {decoders : DecoderRegistry}
  {limit : Option Nat} {recursion : Nat} {stream : ByteStream} {id : FormatId}

/-- A first pass that fails is the end of the run. -/
theorem run_of_error {error : StreamError}
    (failed : (firstPass enabled detectors limit stream).result = .error error) :
    (run enabled detectors decoders limit recursion stream).result = .error error := by
  cases recursion <;> rw [run] <;> simp only [failed]

/-- After a pass that has settled its layer, a run comes to layers if it can end there and
the runs behind the layer do. -/
theorem run_ok_of_settled
    (settled : (firstPass enabled detectors limit stream).result = .ok id)
    (ends : ∃ last, finish (firstPass enabled detectors limit stream).stream = .ok last)
    (views : ∀ decoder, decoders.get? id.tag = some decoder → ∃ last,
      finish ((firstPass enabled detectors limit stream).stream.decoded decoder) = .ok last)
    (deeper : ∀ further decoder, recursion = further + 1 →
      decoders.get? id.tag = some decoder → ∃ inner, (run enabled detectors decoders limit further
        ((firstPass enabled detectors limit stream).stream.decoded decoder)).result = .ok inner) :
    ∃ detection, (run enabled detectors decoders limit recursion stream).result =
      .ok detection := by
  cases found : decoders.get? id.tag with
  | none =>
      obtain ⟨last, finished⟩ := ends
      exact ⟨_, (Completes.undecoded settled found finished).result⟩
  | some decoder =>
      cases recursion with
      | zero =>
          obtain ⟨last, finished⟩ := views decoder found
          exact ⟨_, (Completes.bounded settled found finished).result⟩
      | succ further =>
          obtain ⟨inner, result⟩ := deeper further decoder rfl found
          exact ⟨_, (Completes.deeper settled found (.of_result result)).result⟩

end DetectionRun

section Views

variable {σ : Type} {reader : Reader σ} {held limit : Nat} {stack : List Decoder}
  {stream : ByteStream}

/-- A new view is unread where the stream below is. -/
theorem Unread.view (unread : Unread reader held stack stream) (decoder : Decoder) :
    Unread reader held (decoder :: stack) (stream.decoded decoder) := .decoded unread

/-- The last rewind of a run succeeds on unread views. -/
theorem Unread.finish_ok (unread : Unread reader held stack stream) :
    ∃ last, DetectionRun.finish stream = .ok last :=
  ⟨_, DetectionRun.finish_eq_ok_iff.mpr (Prod.ext (unread.setLimit none).rewind.1 rfl)⟩

/-- **A pass over views within their budgets** settles the layer and leaves them unread. -/
theorem Thrifty.run_pass (thrifty : Thrifty reader held limit stack stream)
    (unread : ∃ kept, Unread reader kept stack stream) (asked : TagSet)
    (detectors : List Detector) :
    ∃ id, (LayerPass.run asked detectors stream).result = .ok id ∧
      ∃ kept, Unread reader kept stack (LayerPass.run asked detectors stream).stream := by
  have looks : ∀ (probe : Probe) {stream : ByteStream},
      Thrifty reader held limit stack stream → (probe.run stream).2.rewind.1 = .ok () ∧
        Thrifty reader held limit stack (probe.run stream).2.rewind.2 ∧
        ∃ kept, Unread reader kept stack (probe.run stream).2.rewind.2 :=
    fun probe _ thrifty => (probe.run_preserves (fun _ n thrifty => thrifty.read n) thrifty).rewind
  obtain ⟨id, settled, -, fresh⟩ | ⟨probe, before, fault, ⟨thrifty, -⟩, failed, -⟩ :=
    LayerPass.run_cases
      (fun stream =>
        Thrifty reader held limit stack stream ∧ ∃ kept, Unread reader kept stack stream)
      (fun probe _ kept _ => (looks probe kept.1).2) detectors asked ⟨thrifty, unread⟩
  · exact ⟨id, settled, fresh⟩
  · cases failed.symm.trans (looks probe thrifty).1

/-- **A run over decoded views** on a replay buffer comes to layers under every limit.  The
induction is on the layers that may still follow. -/
theorem Unread.run_ok (unread : Unread reader held stack stream) (some_view : stack ≠ [])
    (enabled : TagSet) (detectors : List Detector) (decoders : DecoderRegistry) (limit : Nat)
    (recursion : Nat) :
    ∃ detection, (DetectionRun.run enabled detectors decoders (some limit) recursion
      stream).result = .ok detection := by
  induction recursion generalizing held stack stream with
  | zero =>
      obtain ⟨id, settled, kept, fresh⟩ := (unread.thrifty some_view limit).run_pass
        ⟨held, unread.setLimit (some limit)⟩ enabled detectors
      exact DetectionRun.run_ok_of_settled settled fresh.finish_ok
        (fun decoder _ => (fresh.view decoder).finish_ok) (fun _ _ more => nomatch more)
  | succ recursion ih =>
      obtain ⟨id, settled, kept, fresh⟩ := (unread.thrifty some_view limit).run_pass
        ⟨held, unread.setLimit (some limit)⟩ enabled detectors
      refine DetectionRun.run_ok_of_settled settled fresh.finish_ok
        (fun decoder _ => (fresh.view decoder).finish_ok) fun further decoder more _ => ?_
      obtain rfl : recursion = further := Nat.succ.inj more
      exact ih (fresh.view decoder) (List.cons_ne_nil _ _)

end Views

/-- **A run over a replay buffer without a limit** comes to layers. -/
theorem DetectionRun.run_ok_of_unlimited {σ : Type} {reader : Reader σ} {content : Bytes}
    {b : Buffered σ} (left : b.Left reader content content) (replayable : b.overflowed = false)
    {decoders : DecoderRegistry} (unknown : decoders.get? .unknown = none) (enabled : TagSet)
    (detectors : List Detector) (recursion : Nat) :
    ∃ detection, (run enabled detectors decoders none recursion
      ⟨Buffered.kind reader, b⟩).result = .ok detection := by
  have unlimited : ∀ limit, decoders.Limits none limit → limit = none := by
    intro limit given
    induction given with
    | lifted => rfl
    | whole => rfl
    | share _ _ ih => rw [ih, Option.map_none]
  obtain ⟨detection, result, -⟩ := run_behind (Buffered.replays reader content unlimited) unknown
    enabled detectors recursion [] (fun _ member => nomatch member) ⟨Buffered.kind reader, b⟩
    fun share given => .base ⟨⟨left.inside, left.ahead⟩, unlimited share given, replayable⟩
  exact ⟨detection, result⟩

section FirstLayer

variable {σ : Type} (reader : Reader σ) (content : Bytes) (limit : Nat)

/-- A replay buffer at the first byte of a content, under a limit. -/
structure Buffered.Start (b : Buffered σ) : Prop where
  tracked : b.Tracked reader content limit content
  first : b.position = 0

/-- **A pass of detectors over a replay buffer spends it** if and only if `spends` holds: the
rewind after one of them fails then, and else the layer is settled and the buffer is back at
its first byte. -/
def LayerPass.SpendsIff (asked : TagSet) (detectors : List Detector) (spends : Prop) : Prop :=
  ∀ b : Buffered σ, b.Start reader content limit →
    (spends → (run asked detectors ⟨Buffered.kind reader, b⟩).result =
      .error ⟨.resettingAfterDetector, .limitExceeded⟩) ∧
    (¬ spends → ∃ id fresh, fresh.Start reader content limit ∧
      (run asked detectors ⟨Buffered.kind reader, b⟩).result = .ok id ∧
      (run asked detectors ⟨Buffered.kind reader, b⟩).stream = ⟨Buffered.kind reader, fresh⟩)

variable {reader content limit} {asked : TagSet} {detector : Detector}
  {rest detectors : List Detector} {spends other : Prop}

/-- A buffer at the first byte is unread. -/
theorem Buffered.Start.unread {b : Buffered σ} (start : b.Start reader content limit) :
    Unread reader b.kept.size [] ⟨Buffered.kind reader, b⟩ :=
  .base start.first start.tracked.replayable rfl

namespace LayerPass.SpendsIff

theorem congr (pass : SpendsIff reader content limit asked detectors spends)
    (same : spends ↔ other) : SpendsIff reader content limit asked detectors other := by
  rwa [← propext same]

theorem nil : SpendsIff reader content limit asked [] False :=
  fun b start => ⟨False.elim, fun _ => ⟨.unknown, b, start, rfl, rfl⟩⟩

/-- A detector that is passed over spends nothing. -/
theorem cons_of_apart (apart : detector.declared.intersects asked = false)
    (later : SpendsIff reader content limit asked rest spends) :
    SpendsIff reader content limit asked (detector :: rest) spends := by
  intro b start
  rw [run_cons_of_apart apart]
  exact later b start

/-- A detector that judges by the bytes up to a bound spends the buffer if it sees more of them
than the limit, or if it does not settle the layer and a later one spends the buffer. -/
theorem cons_of_judge (meets : detector.declared.intersects asked = true) {bound : Option Nat}
    {verdict : Bytes → FormatId}
    (judges : ∀ stream, (detector.look asked).run stream =
      (Probe.judge bound verdict).run stream)
    (later : SpendsIff reader content limit (asked.removeAll detector.declared) rest spends) :
    SpendsIff reader content limit asked (detector :: rest)
      (limit < (bound.elim content content.take).length ∨
        settles? asked (.ok (verdict (bound.elim content content.take))) = none ∧ spends) := by
  intro b start
  obtain ⟨after, judged, beyond, within⟩ := start.tracked.judge bound verdict
  have looked := (judges ⟨Buffered.kind reader, b⟩).trans judged
  by_cases more : limit < (bound.elim content content.take).length
  · refine ⟨fun _ => ?_, fun kept => absurd (.inl more) kept⟩
    have failed : (ByteStream.mk (Buffered.kind reader) after).rewind =
        (.error .limitExceeded, ⟨Buffered.kind reader, after⟩) := by
      have failed : (Buffered.kind reader).rewind after = _ := beyond more
      rw [ByteStream.rewind, failed]
    rw [run_cons_of_error meets looked failed]
  · obtain ⟨back, tracked⟩ := within (Nat.le_of_not_lt more)
    have rewound : (ByteStream.mk (Buffered.kind reader) after).rewind =
        (.ok (), ⟨Buffered.kind reader, { after with position := 0 }⟩) := by
      have back : (Buffered.kind reader).rewind after = _ := back
      rw [ByteStream.rewind, back]
    have fresh : ({ after with position := 0 } : Buffered σ).Start reader content limit :=
      ⟨tracked, rfl⟩
    cases settled : settles? asked (.ok (verdict (bound.elim content content.take))) with
    | some id =>
        rw [run_cons_of_settled meets looked rewound settled]
        refine ⟨fun spent => ?_, fun _ => ⟨id, _, fresh, rfl, rfl⟩⟩
        exact absurd (spent.resolve_left more).1 (Option.some_ne_none id)
    | none =>
        rw [run_cons_of_useless meets looked rewound settled]
        obtain ⟨spent, kept⟩ := later _ fresh
        exact ⟨fun spends => spent (spends.resolve_left more).2,
          fun unspent => kept fun spends => unspent (.inr ⟨rfl, spends⟩)⟩

end LayerPass.SpendsIff

/-- **A run over a replay buffer** under a limit fails if and only if the pass over its first
layer spends the buffer, and then with the rewind after a detector. -/
theorem LayerPass.SpendsIff.run_eq_error_iff
    (pass : SpendsIff reader content limit asked detectors spends) {b : Buffered σ}
    (start : { b with limit := some limit }.Start reader content limit)
    (decoders : DecoderRegistry) (recursion : Nat) (error : StreamError) :
    (DetectionRun.run asked detectors decoders (some limit) recursion
        ⟨Buffered.kind reader, b⟩).result = .error error ↔
      spends ∧ error = ⟨.resettingAfterDetector, .limitExceeded⟩ := by
  have pass : (spends →
      (DetectionRun.firstPass asked detectors (some limit) ⟨Buffered.kind reader, b⟩).result =
        .error ⟨.resettingAfterDetector, .limitExceeded⟩) ∧ _ := pass _ start
  obtain ⟨spent, kept⟩ := pass
  by_cases spends : spends
  · rw [DetectionRun.run_of_error (spent spends), Except.error.injEq]
    exact ⟨fun same => ⟨spends, same.symm⟩, fun failed => failed.2.symm⟩
  · obtain ⟨id, fresh, again, settled, back⟩ := kept spends
    have unread := again.unread
    rw [← back] at unread
    have comes : ∃ detection, (DetectionRun.run asked detectors decoders (some limit) recursion
        ⟨Buffered.kind reader, b⟩).result = .ok detection := by
      refine DetectionRun.run_ok_of_settled settled unread.finish_ok
        (fun decoder _ => (unread.view decoder).finish_ok) fun further decoder _ _ => ?_
      exact (unread.view decoder).run_ok (List.cons_ne_nil _ _) asked detectors decoders limit
        further
    obtain ⟨detection, result⟩ := comes
    rw [result]
    constructor
    · intro failed
      cases failed
    · intro failed
      exact absurd failed.1 spends

end FirstLayer

end Discern
