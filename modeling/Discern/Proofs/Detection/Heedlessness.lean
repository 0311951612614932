import Discern.Proofs.Detection.ReadLimit
import Discern.Proofs.Stream.Flow

/-!
# A run pays no heed to faults of detectors

A pass goes on behind a detector that has failed as it does behind one that has found nothing
(`DetectionRun.run_heedless`).  It does not ask where the fault came from, so a fault of the
stream itself, which a detector meets and passes on, ends no run either: over a stream that
can be rewound a run comes to layers whatever its requests bring
(`DetectionRun.faults_unreported`).
-/

namespace Discern

/-- **A stream that can be rewound** under the limits that it is given: no request, rewind or
limit leads out of `inside`, and from there every rewind succeeds. -/
structure StreamKind.Rewinds {σ : Type} (kind : StreamKind σ) (limits : Option Nat → Prop)
    (inside : σ → Prop) : Prop where
  read : ∀ {s}, inside s → ∀ n, inside (kind.read n s).2
  rewind : ∀ {s}, inside s → (kind.rewind s).1 = .ok () ∧ inside (kind.rewind s).2
  limit : ∀ {s limit}, limits limit → inside s → inside (kind.limit limit s)

/-- A stream from which every rewind will succeed, whatever is read. -/
def ByteStream.Rewinds (limits : Option Nat → Prop) (stream : ByteStream) : Prop :=
  ∃ inside, stream.kind.Rewinds limits inside ∧ inside stream.state

namespace ByteStream.Rewinds

variable {limits : Option Nat → Prop} {stream : ByteStream}

/-- A request does not keep a stream from being rewound. -/
theorem read (rewinds : stream.Rewinds limits) (n : Nat) :
    (stream.read n).2.Rewinds limits := by
  obtain ⟨inside, kept, here⟩ := rewinds
  exact ⟨inside, kept, kept.read here n⟩

/-- A rewind succeeds, and so will the next. -/
theorem rewind (rewinds : stream.Rewinds limits) :
    stream.rewind.1 = .ok () ∧ stream.rewind.2.Rewinds limits := by
  obtain ⟨inside, kept, here⟩ := rewinds
  exact ⟨(kept.rewind here).1, inside, kept, (kept.rewind here).2⟩

/-- A limit that is allowed does not keep a stream from being rewound. -/
theorem setLimit (rewinds : stream.Rewinds limits) {limit : Option Nat} (given : limits limit) :
    (stream.setLimit limit).Rewinds limits := by
  obtain ⟨inside, kept, here⟩ := rewinds
  exact ⟨inside, kept, kept.limit given here⟩

/-- Nor does a look of a detector. -/
theorem look (rewinds : stream.Rewinds limits) (probe : Probe) :
    (probe.run stream).2.Rewinds limits :=
  probe.run_preserves (fun _ n rewinds => rewinds.read n) rewinds

/-- A decoded view is rewound with the stream below it, and passes shares of its limits on. -/
theorem decoded (rewinds : stream.Rewinds limits) {decoder : Decoder}
    (shares : ∀ share, limits share → limits (share.map decoder.outerLimit)) :
    (stream.decoded decoder).Rewinds limits := by
  obtain ⟨inside, kept, here⟩ := rewinds
  refine ⟨fun s => inside s.input.base, ⟨?_, ?_, ?_⟩, here⟩
  · intro s here n
    refine Decoded.read_preserves_input decoder stream.kind.toReader
      (fun input => inside input.base) (fun n input here => ?_) n s here
    by_cases spent : input.allowance n = 0 ∧ n ≠ 0
    · rw [Rationed.read_of_spent spent]
      exact here
    · rw [Rationed.read_of_allowed spent]
      exact kept.read here _
  · intro s here
    exact kept.rewind here
  · intro s limit given here
    exact kept.limit (shares limit given) here

end ByteStream.Rewinds

/-- **A look that answers unknown where it would fail.** -/
def Probe.heedless : Probe → Probe
  | answer (.ok id) => answer (.ok id)
  | answer (.error _) => answer (.ok .unknown)
  | read amount next => read amount fun got => (next got).heedless
  | readUpTo limit next => readUpTo limit fun got => (next got).heedless

/-- A detector that finds nothing where it would fail. -/
def Detector.heedless (detector : Detector) : Detector :=
  { detector with look := fun asked => (detector.look asked).heedless }

/-- Nothing else is different about a heedless look. -/
theorem Probe.run_heedless (probe : Probe) (stream : ByteStream) :
    ((probe.heedless.run stream).1 = (probe.run stream).1 ∨
      (probe.heedless.run stream).1 = .ok .unknown ∧
        ∃ fault, (probe.run stream).1 = .error fault) ∧
      (probe.heedless.run stream).2 = (probe.run stream).2 := by
  induction probe generalizing stream with
  | answer outcome =>
      cases outcome with
      | error fault => exact ⟨.inr ⟨rfl, fault, rfl⟩, rfl⟩
      | ok id => exact ⟨.inl rfl, rfl⟩
  | read amount next ih => exact ih _ _
  | readUpTo limit next ih => exact ih _ _

/-- Neither a fault nor an unknown format settles a layer. -/
theorem LayerPass.settles?_heedless (asked : TagSet) (probe : Probe) (stream : ByteStream) :
    settles? asked (probe.heedless.run stream).1 = settles? asked (probe.run stream).1 := by
  obtain ⟨same | ⟨unknown, fault, failed⟩, -⟩ := probe.run_heedless stream
  · rw [same]
  · rw [unknown, failed]
    rfl

/-- **A pass of heedless detectors** comes to the same result on the same stream. -/
theorem LayerPass.run_heedless (detectors : List Detector) (asked : TagSet)
    (stream : ByteStream) :
    (run asked (detectors.map Detector.heedless) stream).result =
        (run asked detectors stream).result ∧
      (run asked (detectors.map Detector.heedless) stream).stream =
        (run asked detectors stream).stream := by
  induction detectors generalizing asked stream with
  | nil => exact ⟨rfl, rfl⟩
  | cons detector rest ih =>
      rw [List.map_cons]
      cases meets : detector.declared.intersects asked with
      | false =>
          have apart : detector.heedless.declared.intersects asked = false := meets
          rw [run_cons_of_apart meets, run_cons_of_apart apart]
          exact ih asked stream
      | true =>
          have same : detector.heedless.declared.intersects asked = true := meets
          have verdict := settles?_heedless asked (detector.look asked) stream
          have after := ((detector.look asked).run_heedless stream).2
          cases heard : (detector.look asked).heedless.run stream with
          | mk answer behind =>
          cases looked : (detector.look asked).run stream with
          | mk outcome last =>
          rw [heard, looked] at verdict after
          obtain rfl : behind = last := after
          have heard : (detector.heedless.look asked).run stream = (answer, behind) := heard
          cases restart : behind.rewind with
          | mk back fresh =>
          cases back with
          | error fault =>
              rw [run_cons_of_error meets looked restart,
                run_cons_of_error same heard restart]
              exact ⟨rfl, rfl⟩
          | ok done =>
              cases settled : settles? asked outcome with
              | some id =>
                  rw [run_cons_of_settled meets looked restart settled,
                    run_cons_of_settled same heard restart (verdict.trans settled)]
                  exact ⟨rfl, rfl⟩
              | none =>
                  rw [run_cons_of_useless meets looked restart settled,
                    run_cons_of_useless same heard restart (verdict.trans settled)]
                  exact ih _ fresh

namespace DetectionRun

/-- **A run of heedless detectors** comes to the same layers, or to the same error. -/
theorem run_heedless (enabled : TagSet) (detectors : List Detector) (decoders : DecoderRegistry)
    (limit : Option Nat) (recursion : Nat) (stream : ByteStream) :
    (run enabled (detectors.map Detector.heedless) decoders limit recursion stream).result =
      (run enabled detectors decoders limit recursion stream).result := by
  induction recursion generalizing stream with
  | zero =>
      obtain ⟨result, last⟩ := LayerPass.run_heedless detectors enabled (stream.setLimit limit)
      rw [run, run, result, last]
      split
      · rfl
      · split <;> rfl
  | succ recursion ih =>
      obtain ⟨result, last⟩ := LayerPass.run_heedless detectors enabled (stream.setLimit limit)
      rw [run, run, result, last]
      split
      · rfl
      · split
        · rfl
        · simp only [ih]

section Rewinds

variable {decoders : DecoderRegistry} {limit : Option Nat} {stream : ByteStream}

/-- The last rewind of a run succeeds. -/
theorem finish_ok_of_rewinds (rewinds : stream.Rewinds (decoders.Limits limit)) :
    ∃ last, finish stream = .ok last :=
  ⟨_, finish_eq_ok_iff.mpr (Prod.ext (rewinds.setLimit .lifted).rewind.1 rfl)⟩

/-- A pass over a stream that can be rewound settles its layer. -/
theorem firstPass_ok_of_rewinds (rewinds : stream.Rewinds (decoders.Limits limit))
    (enabled : TagSet) (detectors : List Detector) :
    ∃ id, (firstPass enabled detectors limit stream).result = .ok id ∧
      (firstPass enabled detectors limit stream).stream.Rewinds (decoders.Limits limit) := by
  obtain settled | ⟨probe, before, fault, again, failed, -⟩ :=
    LayerPass.run_cases (ByteStream.Rewinds (decoders.Limits limit))
      (fun probe _ rewinds _ => (rewinds.look probe).rewind.2) detectors enabled
      (rewinds.setLimit .whole)
  · exact settled
  · rw [(again.look probe).rewind.1] at failed
    cases failed

/-- What is inside a layer can be rewound as well. -/
theorem rewinds_inside (rewinds : stream.Rewinds (decoders.Limits limit)) {id : FormatId}
    {decoder : Decoder} (found : decoders.get? id.tag = some decoder) :
    (stream.decoded decoder).Rewinds (decoders.Limits limit) :=
  rewinds.decoded fun _ given => .share (DecoderRegistry.mem_of_get? found) given

/-- **A run over a stream that can be rewound** comes to layers, whatever its requests bring.
The induction is on the layers that may still follow. -/
theorem run_ok_of_rewinds (rewinds : stream.Rewinds (decoders.Limits limit)) (enabled : TagSet)
    (detectors : List Detector) (recursion : Nat) :
    ∃ detection, (run enabled detectors decoders limit recursion stream).result =
      .ok detection := by
  induction recursion generalizing stream with
  | zero =>
      obtain ⟨id, settled, after⟩ := firstPass_ok_of_rewinds rewinds enabled detectors
      exact run_ok_of_settled settled (finish_ok_of_rewinds after)
        (fun decoder found => finish_ok_of_rewinds (rewinds_inside after found))
        fun _ _ more => nomatch more
  | succ recursion ih =>
      obtain ⟨id, settled, after⟩ := firstPass_ok_of_rewinds rewinds enabled detectors
      refine run_ok_of_settled settled (finish_ok_of_rewinds after)
        (fun decoder found => finish_ok_of_rewinds (rewinds_inside after found))
        fun further decoder more found => ?_
      obtain rfl : recursion = further := Nat.succ.inj more
      exact ih (rewinds_inside after found)

end Rewinds

/-- **Faults of a stream are not reported.**  Over a stream that can be rewound a run comes to
layers wherever its requests fail, and the layers are those that it comes to where each
detector that failed has found nothing. -/
theorem faults_unreported (enabled : TagSet) (detectors : List Detector)
    (decoders : DecoderRegistry) (limit : Option Nat) (recursion : Nat) (stream : ByteStream)
    (rewinds : stream.Rewinds (decoders.Limits limit)) :
    ∃ detection,
      (run enabled detectors decoders limit recursion stream).result = .ok detection ∧
      (run enabled (detectors.map Detector.heedless) decoders limit recursion stream).result =
        .ok detection := by
  obtain ⟨detection, result⟩ := run_ok_of_rewinds rewinds enabled detectors recursion
  exact ⟨detection, result, (run_heedless ..).trans result⟩

end DetectionRun

/-- **A content in memory behind which every request fails.** -/
def Cursor.broken (fault : Fault) : StreamKind Cursor where
  read n s :=
    if s.rest.isEmpty then (.error fault, s)
    else (.ok (s.rest.take n), { s with rest := s.rest.drop n })
  supply s := s.rest.length
  taken_le n s := by
    split
    · exact Nat.zero_le n
    · exact Cursor.kind.taken_le n s
  spends n s := by
    split
    · exact Nat.le_of_eq (Nat.zero_add _)
    · exact Cursor.kind.spends n s
  rewind s := (.ok (), { s with rest := s.content })
  limit _ s := s

/-- What such a stream brings is the rest of its content and then the fault. -/
theorem Cursor.broken_brings (fault : Fault) (s : Cursor) :
    (broken fault).toReader.Brings False s ⟨s.rest, some fault⟩ := by
  refine ⟨fun s flow => flow = ⟨s.rest, some fault⟩, ⟨?_, ?_⟩, rfl⟩
  · rintro s flow n bytes rfl answered
    simp only [broken] at answered ⊢
    by_cases spent : s.rest.isEmpty = true
    · rw [if_pos spent] at answered
      cases answered
    · rw [if_neg spent] at answered ⊢
      obtain rfl : s.rest.take n = bytes := Except.ok.inj answered
      refine ⟨⟨s.rest.drop n, (List.take_append_drop n s.rest).symm, rfl⟩, fun empty more => ?_⟩
      rw [(List.take_eq_nil_iff.mp empty).resolve_left more] at spent
      exact absurd rfl spent
  · rintro s flow n other rfl failed
    simp only [broken] at failed
    by_cases spent : s.rest.isEmpty = true
    · rw [if_pos spent] at failed
      exact ⟨congrArg some (Except.error.inj failed), .inl (List.isEmpty_iff.mp spent)⟩
    · rw [if_neg spent] at failed
      cases failed

/-- A stream of four bytes on which a fault follows, and can be rewound. -/
def brokenDocument : ByteStream :=
  ⟨Cursor.broken (.foreign .brokenPipe "device gone"), .start [0x25, 0x50, 0x44, 0x46]⟩

/-- The four bytes can be rewound under every limit. -/
theorem brokenDocument_rewinds (limits : Option Nat → Prop) : brokenDocument.Rewinds limits :=
  ⟨fun _ => True, ⟨fun _ _ => trivial, fun _ => ⟨rfl, trivial⟩, fun _ _ => trivial⟩, trivial⟩

namespace DetectionRun

/-- A table that looks for gzip meets the fault, and the run ends as if it had found nothing. -/
theorem faults_unreported_brokenDocument :
    brokenDocument.Rewinds (DecoderRegistry.defaults.Limits (some 2)) ∧ ∃ detection,
      (run (.ofList [.gzip]) [.ofTable ⟨[⟨.gzip, .gzip⟩]⟩] .defaults (some 2) 1
        brokenDocument).result = .ok detection ∧
      (run (.ofList [.gzip]) ([.ofTable ⟨[⟨.gzip, .gzip⟩]⟩].map Detector.heedless) .defaults
        (some 2) 1 brokenDocument).result = .ok detection :=
  ⟨brokenDocument_rewinds _, faults_unreported _ _ _ _ _ _ (brokenDocument_rewinds _)⟩

/-- The tag of documents, and a table that finds it by the five bytes `%PDF-`. -/
def documentTag : FormatTag := .ofString "pdf"

/-- A table that finds documents by their first five bytes. -/
def documentTable : RuleTable := ⟨[⟨documentTag, .literal [0x25, 0x50, 0x44, 0x46, 0x2D]⟩]⟩

/-- A detector that meets the fault of its stream is passed over. -/
theorem brokenPipe_unreported :
    ∃ detection, (run (.ofList [documentTag]) [.ofTable documentTable] .empty none 0
        brokenDocument).result = .ok detection ∧
      detection.layers = [.unknown] ∧
      (run (.ofList [documentTag]) [.ofTable documentTable] .empty none 0
        brokenDocument).calls = [⟨"ModuleDetector", .ofList [documentTag],
          .error (.foreign .brokenPipe "device gone")⟩] := by
  have brings : brokenDocument.Brings False ⟨[0x25, 0x50, 0x44, 0x46], some _⟩ :=
    Cursor.broken_brings (.foreign .brokenPipe "device gone") (.start [0x25, 0x50, 0x44, 0x46])
  have meets : (Detector.ofTable documentTable).declared.intersects
      (.ofList [documentTag]) = true := by decide
  -- The widest rule wants five bytes, so the fault behind the fourth is met.
  have looked : (((Detector.ofTable documentTable).look (.ofList [documentTag])).run
      brokenDocument).1 = .error (.foreign .brokenPipe "device gone") :=
    congrArg (Except.map (documentTable.detect (.ofList [documentTag])))
      (brings.readUpTo (some 5))
  generalize answers : ((Detector.ofTable documentTable).look (.ofList [documentTag])).run
    brokenDocument = look at looked
  obtain ⟨outcome, after⟩ := look
  obtain rfl : outcome = .error _ := looked
  have restart := ((brokenDocument_rewinds (DecoderRegistry.empty.Limits none)).look
    ((Detector.ofTable documentTable).look (.ofList [documentTag]))).rewind
  rw [answers] at restart
  obtain ⟨rewound, fresh⟩ := restart
  have pass : LayerPass.run (.ofList [documentTag]) [.ofTable documentTable]
      (brokenDocument.setLimit none) = ⟨[_], .ok .unknown, after.rewind.2⟩ :=
    LayerPass.run_cons_of_useless meets answers (Prod.ext rewound rfl) rfl
  have settled := congrArg LayerPass.result pass
  obtain ⟨last, finished⟩ := finish_ok_of_rewinds fresh
  have absent : DecoderRegistry.empty.get? FormatId.unknown.tag = none := rfl
  have ends : finish after.rewind.2 = .ok last := finished
  rw [run_eq_of_undecoded settled absent, pass, ends]
  exact ⟨_, rfl, rfl, rfl⟩

end DetectionRun

end Discern
