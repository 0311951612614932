import Discern.Detection.Detector
import Discern.Proofs.Classification.Verdict
import Discern.Proofs.Library.Structure
import Discern.Proofs.Signature.Occurrence
import Discern.Proofs.Stream.Delivery

/-!
# Judging by the first bytes

A detector with a limit judges by the first bytes of a content.  A sequence that is anchored
at the beginning, or nowhere, occurs in the whole content if it occurs in the first bytes
(`ByteSequence.occursIn_of_lead`).  One that is anchored at the end was compared with the end
of the first bytes, which says nothing about the end of the content: what the detector reports
is true of the whole content as far as such sequences end it, too
(`Library.look_complies_iff`).
-/

namespace Discern

section Lead

variable {lead content : Bytes} (begins : lead <+: content)
include begins

/-- What lies in the beginning of a content lies in the content. -/
theorem Fragment.LiesAt.of_lead {fragment : Fragment} {start : Nat}
    (lies : fragment.LiesAt lead start) : fragment.LiesAt content start := by
  obtain ⟨rest, rfl⟩ := begins
  constructor
  · rw [List.length_append]
    exact Nat.le_add_right_of_le lies.1
  · intro i byte asked
    have there := lies.2 i byte asked
    obtain ⟨inside, -⟩ := List.getElem?_eq_some_iff.mp there
    rwa [List.getElem?_append_left inside]

/-- Steps that are placed in the beginning of a content are placed in the content. -/
theorem Placed.of_lead {steps : List Step} {position : Nat}
    (placed : Placed lead steps position) : Placed content steps position := by
  induction steps generalizing position with
  | nil => trivial
  | cons step rest ih =>
      obtain ⟨skipped, admits, lies, follows⟩ := placed
      exact ⟨skipped, admits, lies.of_lead begins, ih follows⟩

/-- **What is not anchored at the end** and occurs in the first bytes occurs in the content. -/
theorem ByteSequence.occursIn_of_lead {sequence : ByteSequence} (forward : sequence.anchor ≠ .eof)
    (occurs : sequence.occursIn lead = true) : sequence.occursIn content = true := by
  have present : sequence.steps ≠ [] := by
    intro empty
    simp [occursIn, empty] at occurs
  have view : ∀ bytes, (sequence.view bytes).toList = bytes := by
    intro bytes
    unfold ByteSequence.view
    split
    · exact absurd ‹_› forward
    · rfl
  rw [occursIn_iff_placed present, view] at occurs ⊢
  exact occurs.of_lead begins

/-- A content whose first bytes comply with a signature complies with it if and only if all
sequences that are anchored at the end occur in it. -/
theorem Signature.accepts_iff_of_lead {signature : Signature}
    (complies : signature.accepts lead = true) :
    signature.accepts content = true ↔
      ∀ sequence ∈ signature.sequences, sequence.anchor = .eof →
        sequence.occursIn content = true := by
  rw [accepts, List.all_eq_true] at complies ⊢
  constructor
  · intro all sequence listed _
    exact all sequence listed
  · intro ends sequence listed
    by_cases anchored : sequence.anchor = .eof
    · exact ends sequence listed anchored
    · exact sequence.occursIn_of_lead begins anchored (complies sequence listed)

end Lead

namespace Library

variable {library : Library}

/-- What is detected is the identity of a format that stands. -/
theorem Prepared.exists_stands_of_detect (prepared : library.Prepared) {asked : TagSet}
    {lead : Bytes} (known : (library.detect asked lead).isUnknown = false) :
    ∃ format, library.Stands lead format ∧ format.formatId = library.detect asked lead := by
  rw [detect] at known ⊢
  cases found : List.find? (fun hit : Hit => asked.contains hit.formatId.tag)
      ((library.classify lead none).hits.filter Hit.isPositive) with
  | none =>
      rw [found] at known
      cases known
  | some hit =>
      have listed := (List.mem_filter.mp (List.mem_of_find?_eq_some found)).1
      obtain ⟨format, stands, rfl⟩ := (prepared.mem_hits_iff lead).mp listed
      have reports : library.Reports lead none format (library.reported lead none format) :=
        reports_reported none format
      exact ⟨format, stands, reports.identity.2.1.symm⟩

/-- The signatures judge by what a stream shows, with a limit by the first bytes of it. -/
theorem look_run {stream : ByteStream} {content : Bytes} (shown : stream.Shows (some content))
    (asked : TagSet) (limit : Option Nat) :
    (((Detector.ofLibrary library limit).look asked).run stream).1 =
      .ok (library.detect asked (limit.elim content content.take)) := by
  have read := (Reader.Shows.readUpTo shown limit).1
  exact congrArg (Except.map (library.detect asked)) read

/-- **What a limited look proves.**  If the signatures of a prepared library, judging by the
first bytes of a stream, report a format, then these bytes comply with a signature of a format
with that identity, and the whole content complies with this signature if and only if it ends
with all sequences that the signature anchors at the end. -/
theorem look_complies_iff {version : String} {formats : List FileFormat}
    {signatures : List Signature} (prepared : prepare version formats signatures = .ok library)
    (asked : TagSet) (limit : Nat) {stream : ByteStream} {content : Bytes}
    (shown : stream.Shows (some content)) {id : FormatId}
    (answered : (((Detector.ofLibrary library (some limit)).look asked).run stream).1 = .ok id)
    (known : id.isUnknown = false) :
    ∃ format ∈ library.formats, format.formatId = id ∧
      ∃ signature ∈ library.signatures, signature.id ∈ format.signatures ∧
        signature.accepts (content.take limit) = true ∧
        (signature.accepts content = true ↔
          ∀ sequence ∈ signature.sequences, sequence.anchor = .eof →
            sequence.occursIn content = true) := by
  rw [look_run shown, Option.elim_some] at answered
  obtain rfl := Except.ok.inj answered
  obtain ⟨format, stands, identity⟩ := (Prepared.of_prepare prepared).exists_stands_of_detect known
  obtain ⟨member, signature, declared, listed, complies⟩ := stands.1
  exact ⟨format, member, identity, signature, declared, listed, complies,
    signature.accepts_iff_of_lead (List.take_prefix limit content) complies⟩

/-- A document begins with a head and ends with a mark, after which a line may break. -/
def documentFormat : FileFormat :=
  { id := 1, name := "document", tag := ⟨"pdf", by decide⟩, signatures := [10] }

/-- A signature of documents with one sequence at the beginning and one at the end. -/
def documentSignature : Signature where
  id := 10
  specific := false
  sequences := [
    { anchor := .bof, subSequences :=
        [{ offset := .none, fragments := [.literal [0x25, 0x50, 0x44, 0x46, 0x2D]], gaps := [] }] },
    { anchor := .eof, subSequences :=
        [{ offset := .between 0 2, fragments := [.literal [0x25, 0x25, 0x45, 0x4F, 0x46]],
           gaps := [] }] }]

/-- A library of documents. -/
def documentLibrary : Library :=
  ⟨"1", [documentFormat], [prepareSignature [documentFormat] documentSignature]⟩

/-- It is accepted as it stands. -/
theorem prepare_documents :
    prepare "1" [documentFormat] [documentSignature] = .ok documentLibrary := rfl

/-- The sequences of a document are declared in the order in which they are tried. -/
theorem documentLibrary_eq :
    documentLibrary = ⟨"1", [documentFormat], [{ documentSignature with
      sequences := documentSignature.sequences.map ByteSequence.prepare
      owners := [1] }]⟩ := by
  have tried : inTrialOrder documentSignature.sequences = documentSignature.sequences :=
    inTrialOrder_of_pairwise (by decide)
  rw [documentLibrary, prepareSignature, tried]
  rfl

/-- The shortest document. -/
def document : Bytes := [0x25, 0x50, 0x44, 0x46, 0x2D, 0x25, 0x25, 0x45, 0x4F, 0x46]

/-- With a limit of ten bytes nothing behind the shortest document is seen. -/
theorem look_run_document (rest : Bytes) :
    (((Detector.ofLibrary documentLibrary (some 10)).look documentLibrary.declared).run
      (.ofBytes (document ++ rest))).1 = .ok documentFormat.formatId := by
  have shown : (ByteStream.ofBytes (document ++ rest)).Shows (some (document ++ rest)) :=
    Cursor.shows (.start (document ++ rest))
  have lead : (document ++ rest).take 10 = document := List.take_left' rfl
  have detected : documentLibrary.detect documentLibrary.declared document =
      documentFormat.formatId := by
    rw [documentLibrary_eq]
    cbv
  rw [look_run shown, Option.elim_some, lead, detected]

/-- A part with an end mark of its own was added to the shortest document. -/
theorem look_complies_iff_appended :
    prepare "1" [documentFormat] [documentSignature] = .ok documentLibrary ∧
    (ByteStream.ofBytes (document ++ document.drop 5)).Shows (some (document ++ document.drop 5)) ∧
    (((Detector.ofLibrary documentLibrary (some 10)).look documentLibrary.declared).run
      (.ofBytes (document ++ document.drop 5))).1 = .ok documentFormat.formatId ∧
    documentFormat.formatId.isUnknown = false ∧
    ∃ format ∈ documentLibrary.formats, format.formatId = documentFormat.formatId ∧
      ∃ signature ∈ documentLibrary.signatures, signature.id ∈ format.signatures ∧
        signature.accepts ((document ++ document.drop 5).take 10) = true ∧
        (signature.accepts (document ++ document.drop 5) = true ↔
          ∀ sequence ∈ signature.sequences, sequence.anchor = .eof →
            sequence.occursIn (document ++ document.drop 5) = true) := by
  have shown : (ByteStream.ofBytes (document ++ document.drop 5)).Shows
      (some (document ++ document.drop 5)) := Cursor.shows (.start (document ++ document.drop 5))
  have answered := look_run_document (document.drop 5)
  exact ⟨prepare_documents, shown, answered, rfl,
    look_complies_iff prepare_documents documentLibrary.declared 10 shown answered rfl⟩

/-- **A limited look may report what the content is not:** a document of which the end mark
stands where the first bytes end, and not where the content ends. -/
theorem look_reports_cut_document :
    prepare "1" [documentFormat] [documentSignature] = .ok documentLibrary ∧
    (((Detector.ofLibrary documentLibrary (some 10)).look documentLibrary.declared).run
      (.ofBytes (document ++ [0x20, 0x20, 0x20]))).1 = .ok documentFormat.formatId ∧
    documentFormat.formatId.isUnknown = false ∧
    ¬∃ format ∈ documentLibrary.formats, format.formatId = documentFormat.formatId ∧
      ∃ signature ∈ documentLibrary.signatures, signature.id ∈ format.signatures ∧
        signature.accepts (document ++ [0x20, 0x20, 0x20]) = true := by
  have refused : documentLibrary.signatures.all (fun signature =>
      !signature.accepts (document ++ [0x20, 0x20, 0x20])) = true := by
    rw [documentLibrary_eq]
    cbv
  refine ⟨prepare_documents, look_run_document _, rfl, ?_⟩
  rintro ⟨format, -, -, signature, declared, -, complies⟩
  have refuses := List.all_eq_true.mp refused signature declared
  rw [complies] at refuses
  cases refuses

end Library

end Discern
