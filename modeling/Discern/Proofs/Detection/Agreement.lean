import Discern.Detection.Strategy
import Discern.Proofs.Detection.Heedlessness
import Discern.Proofs.Detection.LimitedLook

/-!
# Detection agrees with classification

A content can be classified by the signatures of a library, or detected as the first layer of a
stream by a strategy that asks these signatures first.  Both come to the same answer: the first
layer is the best hit where some signature complies, and where none does the signatures have no
part in it (`Strategy.first_layer_agrees`).

Without the name of a file there are no hits but those on formats that stand, so nothing is lost
where a detector keeps the positive hits on asked formats only.
-/

namespace Discern

namespace Library

variable {library : Library} {content : Bytes} {format : FileFormat} {hit : Hit}

/-- A format with a signature is declared. -/
theorem Recognises.tag_mem_declared (recognises : library.Recognises content format) :
    format.tag ∈ library.declared := by
  obtain ⟨member, signature, -, listed, -⟩ := recognises
  rw [declared, TagSet.mem_ofList]
  refine List.mem_map_of_mem (List.mem_filter.mpr ⟨member, ?_⟩)
  rw [FileFormat.isExtensionOnly, Bool.not_eq_true', List.isEmpty_eq_false_iff]
  exact List.ne_nil_of_mem listed

namespace Prepared

variable (prepared : library.Prepared)
include prepared

/-- The identity in a hit is that of a declared format. -/
theorem exists_format_of_mem_hits (listed : hit ∈ (library.classify content none).hits) :
    ∃ format ∈ library.formats, hit.formatId = format.formatId ∧
      format.tag ∈ library.declared := by
  obtain ⟨format, stands, rfl⟩ := (prepared.mem_hits_iff content).mp listed
  have reports : library.Reports content none format (library.reported content none format) :=
    reports_reported none format
  exact ⟨format, stands.1.1, reports.identity.2.1, stands.1.tag_mem_declared⟩

/-- A content is positively identified exactly where there is a best hit. -/
theorem status_eq_positive_iff_best :
    (library.classify content none).status = .positive ↔
      ∃ best, (library.classify content none).best? = some best := by
  have sure : ∀ hit ∈ (library.classify content none).hits, hit.isPositive = true :=
    fun hit => prepared.isPositive_of_mem_hits content
  change Classification.statusOf (library.classify content none).hits = _ ↔
    ∃ best, (library.classify content none).hits.head? = some best
  generalize (library.classify content none).hits = hits at sure
  cases hits with
  | nil => simp [Classification.statusOf]
  | cons best later => simp [Classification.statusOf, sure best List.mem_cons_self]

/-- **Asked for all that it declares,** a library detects its best hit. -/
theorem detect_eq_best {asked : TagSet} (all : ∀ tag ∈ library.declared, tag ∈ asked) :
    library.detect asked content =
      ((library.classify content none).best?.map Hit.formatId).getD .unknown := by
  have kept : (library.classify content none).hits.filter Hit.isPositive =
      (library.classify content none).hits :=
    List.filter_eq_self.mpr fun hit => prepared.isPositive_of_mem_hits content
  have wanted : ∀ hit ∈ (library.classify content none).hits,
      asked.contains hit.formatId.tag = true := by
    intro hit listed
    obtain ⟨format, -, identity, declared⟩ := prepared.exists_format_of_mem_hits listed
    rw [identity, TagSet.contains_iff]
    exact all _ declared
  rw [detect, kept, Classification.best?]
  generalize (library.classify content none).hits = hits at wanted
  cases hits with
  | nil => rfl
  | cons best later =>
      have first := wanted best List.mem_cons_self
      have found : (best :: later).find? (fun hit => asked.contains hit.formatId.tag) =
          some best := List.find?_cons_of_pos first
      rw [found]
      rfl

end Prepared

end Library

/-- **How a pass settles its layer:** it goes on after a detector that declares nothing of what is
asked for, takes an answer that settles the layer, or goes on without what the detector declares. -/
theorem LayerPass.settled_cons {detector : Detector} {rest : List Detector} {asked : TagSet}
    {stream : ByteStream} {id : FormatId}
    (settled : (run asked (detector :: rest) stream).result = .ok id) :
    detector.declared.intersects asked = false ∧ (run asked rest stream).result = .ok id ∨
      settles? asked ((detector.look asked).run stream).1 = some id ∨
      settles? asked ((detector.look asked).run stream).1 = none ∧
        ∃ fresh, (run (asked.removeAll detector.declared) rest fresh).result = .ok id := by
  cases meets : detector.declared.intersects asked with
  | false =>
      rw [run_cons_of_apart meets] at settled
      exact .inl ⟨rfl, settled⟩
  | true =>
      refine .inr ?_
      cases looked : (detector.look asked).run stream with
      | mk outcome after =>
      cases restart : after.rewind with
      | mk back fresh =>
      cases back with
      | error fault =>
          rw [run_cons_of_error meets looked restart] at settled
          cases settled
      | ok done =>
          cases found : settles? asked outcome with
          | some other =>
              rw [run_cons_of_settled meets looked restart found] at settled
              exact .inl (congrArg some (Except.ok.inj settled))
          | none =>
              rw [run_cons_of_useless meets looked restart found] at settled
              exact .inr ⟨rfl, fresh, settled⟩

/-- **The answer of a pass** is unknown or has one of the asked tags. -/
theorem LayerPass.answer_mem {detectors : List Detector} {asked : TagSet} {stream : ByteStream}
    {id : FormatId} (settled : (run asked detectors stream).result = .ok id)
    (identified : id.isUnknown = false) : id.tag ∈ asked := by
  induction detectors generalizing asked stream with
  | nil =>
      obtain rfl : FormatId.unknown = id := Except.ok.inj settled
      cases identified
  | cons detector rest ih =>
      rcases settled_cons settled with ⟨-, later⟩ | found | ⟨-, fresh, later⟩
      · exact ih later
      · exact (settles?_eq_some_iff.mp found).2.2
      · exact (TagSet.mem_removeAll.mp (ih later)).1

section FirstLayer

variable {library : Library} {content : Bytes} {enabled : TagSet} {stream : ByteStream}
  (prepared : library.Prepared) (all : ∀ tag ∈ library.declared, tag ∈ enabled)
  (shown : stream.Shows (some content))
include prepared all shown

/-- What the signatures answer when they are asked for all that the library declares. -/
theorem Library.Prepared.look_run_eq_best :
    (((Detector.ofLibrary library none).look enabled).run stream).1 =
      .ok (((library.classify content none).best?.map Hit.formatId).getD .unknown) := by
  rw [Library.look_run shown, Option.elim_none, prepared.detect_eq_best all]

variable {rest : List Detector} {id : FormatId}
  (settled : (LayerPass.run enabled (.ofLibrary library none :: rest) stream).result = .ok id)
include settled

/-- A best hit settles the layer. -/
theorem LayerPass.answer_eq_best {best : Hit}
    (named : ∀ format ∈ library.formats, format.tag.isUnknown = false)
    (found : (library.classify content none).best? = some best) : id = best.formatId := by
  have listed : best ∈ (library.classify content none).hits := List.mem_of_head? found
  obtain ⟨format, member, identity, declared⟩ := prepared.exists_format_of_mem_hits listed
  have wanted : format.tag ∈ enabled := all _ declared
  have meets : (Detector.ofLibrary library none).declared.intersects enabled = true :=
    TagSet.intersects_iff.mpr ⟨format.tag, declared, wanted⟩
  have judged := prepared.look_run_eq_best all shown
  rw [found, Option.map_some, Option.getD_some] at judged
  have settles : settles? enabled (.ok best.formatId) = some best.formatId := by
    refine settles?_eq_some_iff.mpr ⟨rfl, ?_, ?_⟩
    · rw [identity]
      exact named format member
    · rw [identity]
      exact wanted
  rcases settled_cons settled with ⟨apart, -⟩ | answered | ⟨useless, -⟩
  · rw [meets] at apart
    cases apart
  · rw [judged, settles] at answered
    exact (Option.some.inj answered).symm
  · rw [judged, settles] at useless
    cases useless

/-- Without a hit the layer has no tag that the library declares. -/
theorem LayerPass.answer_not_mem_declared
    (missing : (library.classify content none).best? = none) (identified : id.isUnknown = false) :
    id.tag ∉ library.declared := by
  have judged := prepared.look_run_eq_best all shown
  rw [missing, Option.map_none, Option.getD_none] at judged
  rcases settled_cons settled with ⟨apart, -⟩ | answered | ⟨-, fresh, later⟩
  · intro declared
    have shared := TagSet.intersects_iff.mpr ⟨id.tag, declared, all _ declared⟩
    exact Bool.false_ne_true (apart.symm.trans shared)
  · rw [judged] at answered
    cases answered
  · exact (TagSet.mem_removeAll.mp (answer_mem later identified)).2

end FirstLayer

namespace DetectionRun

variable {enabled : TagSet} {detectors : List Detector} {decoders : DecoderRegistry}
  {limit : Option Nat} {recursion : Nat} {stream : ByteStream} {detection : Detection}

/-- The first layer is what the first pass has settled. -/
theorem Completes.exists_first
    (completes : Completes enabled detectors decoders limit recursion stream detection) :
    ∃ id deeper, (firstPass enabled detectors limit stream).result = .ok id ∧
      detection.layers = id :: deeper := by
  cases completes with
  | undecoded settled => exact ⟨_, [], settled, rfl⟩
  | bounded settled => exact ⟨_, [], settled, rfl⟩
  | deeper settled => exact ⟨_, _, settled, rfl⟩

end DetectionRun

/-- **Detection agrees with classification.**  A strategy asks the signatures of a library
first, for all that the library declares.  Over a stream that can be rewound it comes to layers.
Where it comes to layers, the first is the best hit of a content that is positively identified;
for every other content the signatures answer unknown, and the first layer is unknown or has a
tag that the library does not declare. -/
theorem Strategy.first_layer_agrees {version : String} {formats : List FileFormat}
    {signatures : List Signature} {library : Library}
    (prepared : Library.prepare version formats signatures = .ok library)
    (named : ∀ format ∈ library.formats, format.tag.isUnknown = false) (strategy : Strategy)
    {rest : List Detector} (first : strategy.detectors = .ofLibrary library none :: rest)
    {enabled : TagSet} (all : ∀ tag ∈ library.declared, tag ∈ enabled) {stream : ByteStream}
    {content : Bytes}
    (shown : (stream.setLimit (strategy.readLimit.map UInt64.toNat)).Shows (some content)) :
    (stream.Rewinds (strategy.decoders.Limits (strategy.readLimit.map UInt64.toNat)) →
      ∃ detection, (strategy.run enabled stream).result = .ok detection) ∧
    ∀ detection, (strategy.run enabled stream).result = .ok detection →
      ∃ id deeper, detection.layers = id :: deeper ∧
        ((library.classify content none).status = .positive →
          ∃ best, (library.classify content none).best? = some best ∧ id = best.formatId) ∧
        ((library.classify content none).status ≠ .positive →
          (((Detector.ofLibrary library none).look enabled).run
            (stream.setLimit (strategy.readLimit.map UInt64.toNat))).1 = .ok .unknown ∧
          (id.isUnknown = false → id.tag ∉ library.declared)) := by
  have sound := Library.Prepared.of_prepare prepared
  refine ⟨fun rewinds => DetectionRun.run_ok_of_rewinds rewinds _ _ _, fun detection result => ?_⟩
  obtain ⟨id, deeper, settled, layers⟩ :=
    (DetectionRun.Completes.of_result result).exists_first
  rw [DetectionRun.firstPass, first] at settled
  refine ⟨id, deeper, layers, fun positive => ?_, fun negative => ?_⟩
  · obtain ⟨best, found⟩ := sound.status_eq_positive_iff_best.mp positive
    exact ⟨best, found, LayerPass.answer_eq_best sound all shown settled named found⟩
  · have missing : (library.classify content none).best? = none := by
      rw [Option.eq_none_iff_forall_ne_some]
      exact fun best found => negative (sound.status_eq_positive_iff_best.mpr ⟨best, found⟩)
    have judged := sound.look_run_eq_best all shown
    rw [missing] at judged
    exact ⟨judged, LayerPass.answer_not_mem_declared sound all shown settled missing⟩

/-- A strategy that looks for documents, and then for text that is base64. -/
def documentStrategy : Strategy :=
  ⟨[.ofLibrary Library.documentLibrary none, .ofTable ⟨[⟨.base64, .base64⟩]⟩], .defaults, 1, none⟩

/-- The shortest document is positively identified, and detected. -/
theorem Strategy.first_layer_agrees_document :
    Library.prepare "1" [Library.documentFormat] [Library.documentSignature] =
        .ok Library.documentLibrary ∧
      (Library.documentLibrary.classify Library.document none).status = .positive ∧
      ∃ detection best id deeper,
        (documentStrategy.run Library.documentLibrary.declared
          (.ofBytes Library.document)).result = .ok detection ∧
        detection.layers = id :: deeper ∧
        (Library.documentLibrary.classify Library.document none).best? = some best ∧
        id = best.formatId := by
  have positive : (Library.documentLibrary.classify Library.document none).status =
      .positive := by
    rw [Library.documentLibrary_eq]
    cbv
  have shown : ((ByteStream.ofBytes Library.document).setLimit
      (documentStrategy.readLimit.map UInt64.toNat)).Shows (some Library.document) :=
    Cursor.shows (.start Library.document)
  have rewinds (limits : Option Nat → Prop) :
      (ByteStream.ofBytes Library.document).Rewinds limits :=
    ⟨fun _ => True, ⟨fun _ _ => trivial, fun _ => ⟨rfl, trivial⟩, fun _ _ => trivial⟩, trivial⟩
  obtain ⟨completes, agrees⟩ := first_layer_agrees Library.prepare_documents (by decide)
    documentStrategy rfl (fun _ declared => declared) shown
  obtain ⟨detection, result⟩ := completes (rewinds _)
  obtain ⟨id, deeper, layers, best, -⟩ := agrees detection result
  obtain ⟨best, found, identity⟩ := best positive
  exact ⟨Library.prepare_documents, positive, detection, best, id, deeper, result, layers, found,
    identity⟩

end Discern
