import Discern.Library.Schema
import Discern.Proofs.Library.Validation
import Discern.Proofs.Pattern.Grammar

/-!
# Libraries from documents

A document gives the sequences of a library as texts, and the checks of a library judge the
sequences.  Whatever is read from a text passes these checks.  A document that makes no library is
refused for its version, for a sequence in both forms, for a text that cannot be read, or for a
flaw of the library as a whole; of the flaws in the shape of a sequence it can only have the
one that there is no sub-sequence at all (`LibraryDocument.never_misshapen`).
-/

namespace Discern

/-! ## What is read from a text -/

namespace Pattern

variable {text : List Char} {tokens : List Token} {gap : Gap} {sub : SubSequence}

/-- Bounds that can be read are in order. -/
theorem Bounds.upright (bounds : Bounds text gap) : ∀ max, gap.max = some max → gap.min ≤ max := by
  intro max upper
  cases bounds with
  | exactly =>
      cases upper
      exact UInt64.le_refl _
  | between _ _ ordered =>
      cases upper
      exact ordered
  | atLeast => cases upper

/-- So are those of a gap in a pattern. -/
theorem Spells.upright (spells : Spells text (.gap gap)) :
    ∀ max, gap.max = some max → gap.min ≤ max := by
  cases spells with
  | star => nofun
  | braced _ bounds => exact bounds.upright

/-- So are those of all gaps of a pattern. -/
theorem Written.upright (written : Written text tokens) :
    ∀ gap ∈ (described tokens).gaps, ∀ max, gap.max = some max → gap.min ≤ max := by
  induction written with
  | done => nofun
  | blank _ _ ih => exact ih
  | @token _ t _ _ spells _ ih =>
      cases t with
      | cells _ => exact ih
      | gap _ => exact List.forall_mem_cons.2 ⟨spells.upright, ih⟩

/-- **A chain that is read from a text can be matched.** -/
theorem wellFormed_of_read {text : String} (taken : read text = .ok sub) : sub.WellFormed := by
  rw [read, mapError_eq_ok_iff, scan_eq_ok_iff] at taken
  obtain ⟨tokens, written, assembled⟩ := taken
  obtain ⟨solid, aligned⟩ := assemble_shape assembled (List.forall_mem_nil _)
  obtain ⟨-, rfl⟩ := (assemble_eq_some_iff written.solid).1 assembled
  refine ⟨List.ne_nil_of_length_pos (aligned ▸ Nat.succ_pos _), solid, aligned, ?_⟩
  refine List.forall_mem_cons.2 ⟨?_, written.upright⟩
  intro max upper
  cases upper
  exact UInt64.le_refl _

/-- The bounds of a gap that can be read alone are in order. -/
theorem upright_of_readGap {text : String} (taken : readGap text = .ok gap) :
    ∀ max, gap.max = some max → gap.min ≤ max :=
  (readGap_eq_ok_iff.1 taken).upright

end Pattern

/-! ## What is made of the entries -/

/-- The pattern texts of an entry. -/
def SequenceEntry.patterns (entry : SequenceEntry) : List String :=
  entry.pattern.toList ++ entry.subSequences.map SubSequenceEntry.pattern

/-- The gap texts of an entry. -/
def SequenceEntry.gaps (entry : SequenceEntry) : List String :=
  entry.subSequences.filterMap SubSequenceEntry.gap

/-- A sub-sequence of a document is well formed if its texts can be read. -/
theorem SubSequenceEntry.wellFormed_of_toSubSequence {entry : SubSequenceEntry}
    {sub : SubSequence} (made : entry.toSubSequence = .ok sub) : sub.WellFormed := by
  obtain ⟨chain, taken, made⟩ := bind_eq_ok_iff.1 made
  have sound := Pattern.wellFormed_of_read (mapError_eq_ok_iff.1 taken)
  split at made
  · cases made
    exact sound
  · obtain ⟨offset, given, made⟩ := bind_eq_ok_iff.1 made
    cases made
    have upright := Pattern.upright_of_readGap (mapError_eq_ok_iff.1 given)
    exact { sound with
      upright := List.forall_mem_cons.2 ⟨upright, (List.forall_mem_cons.1 sound.upright).2⟩ }

/-- It fails with the error of one of its texts. -/
theorem SubSequenceEntry.exists_text_of_error {entry : SubSequenceEntry} {error : LibraryError}
    (failed : entry.toSubSequence = .error error) :
    ∃ flaw, error = .pattern flaw ∧ (Pattern.read entry.pattern = .error flaw ∨
      ∃ gap, entry.gap = some gap ∧ Pattern.readGap gap = .error flaw) := by
  rcases bind_eq_error_iff.1 failed with failed | ⟨chain, -, failed⟩
  · obtain ⟨flaw, refused, rfl⟩ := mapError_eq_error_iff.1 failed
    exact ⟨flaw, rfl, .inl refused⟩
  · split at failed
    · cases failed
    · rename_i gap given
      rcases bind_eq_error_iff.1 failed with failed | ⟨offset, -, failed⟩
      · obtain ⟨flaw, refused, rfl⟩ := mapError_eq_error_iff.1 failed
        exact ⟨flaw, rfl, .inr ⟨gap, given, refused⟩⟩
      · cases failed

/-- A sequence of a document has well formed sub-sequences. -/
theorem SequenceEntry.wellFormed_of_toSequence {entry : SequenceEntry} {signature : UInt32}
    {sequence : ByteSequence} (made : entry.toSequence signature = .ok sequence) :
    ∀ sub ∈ sequence.subSequences, sub.WellFormed := by
  unfold toSequence at made
  split at made
  · cases made
  · obtain ⟨chain, taken, made⟩ := bind_eq_ok_iff.1 made
    cases made
    intro sub listed
    cases List.mem_singleton.1 listed
    exact Pattern.wellFormed_of_read (mapError_eq_ok_iff.1 taken)
  · obtain ⟨chains, taken, made⟩ := bind_eq_ok_iff.1 made
    cases made
    intro sub listed
    obtain ⟨entry, -, made⟩ := exists_of_mapM_eq_ok taken listed
    exact entry.wellFormed_of_toSubSequence made

/-- So has every sequence of a signature of a document. -/
theorem SignatureEntry.wellFormed_of_toSignature {entry : SignatureEntry} {signature : Signature}
    (made : entry.toSignature = .ok signature) :
    ∀ sequence ∈ signature.sequences, ∀ sub ∈ sequence.subSequences, sub.WellFormed := by
  obtain ⟨sequences, taken, made⟩ := bind_eq_ok_iff.1 made
  cases made
  intro sequence listed
  obtain ⟨entry, -, made⟩ := exists_of_mapM_eq_ok taken listed
  exact entry.wellFormed_of_toSequence made

/-- **What an error says about a library document.** -/
def LibraryError.Marks (document : LibraryDocument) : LibraryError → Prop
  | unreadable _ _ => False
  | unsupportedFile _ => False
  | unsupportedVersion version =>
    version = document.version ∧ version ≠ LibraryDocument.schemaVersion
  | bothForms id =>
    ∃ signature ∈ document.signatures, signature.id = id ∧
      ∃ sequence ∈ signature.sequences, sequence.pattern ≠ none ∧ sequence.subSequences ≠ []
  | pattern fault =>
    ∃ signature ∈ document.signatures, ∃ sequence ∈ signature.sequences,
      (∃ text ∈ sequence.patterns, Pattern.read text = .error fault) ∨
        ∃ text ∈ sequence.gaps, Pattern.readGap text = .error fault
  | flaw found =>
    ∃ signatures, document.signatures.mapM SignatureEntry.toSignature = .ok signatures ∧
      found.Marks document.formats signatures

namespace LibraryDocument

variable {document : LibraryDocument} {error : LibraryError}

/-- What a sequence fails with marks a text of the document, or a sequence that has none. -/
theorem marks_of_toSequence {signature : SignatureEntry} (member : signature ∈ document.signatures)
    {sequence : SequenceEntry} (listed : sequence ∈ signature.sequences)
    (failed : sequence.toSequence signature.id = .error error) : error.Marks document := by
  unfold SequenceEntry.toSequence at failed
  split at failed
  · rename_i pattern first later given others
    cases failed
    refine ⟨signature, member, rfl, sequence, listed, ?_, ?_⟩
    · rw [given]
      exact Option.some_ne_none pattern
    · rw [others]
      exact List.cons_ne_nil first later
  · rename_i pattern given others
    rcases bind_eq_error_iff.1 failed with failed | ⟨chain, -, failed⟩
    · obtain ⟨flaw, refused, rfl⟩ := mapError_eq_error_iff.1 failed
      refine ⟨signature, member, sequence, listed, .inl ⟨pattern, ?_, refused⟩⟩
      rw [SequenceEntry.patterns, given]
      exact List.mem_cons_self
    · cases failed
  · rcases bind_eq_error_iff.1 failed with failed | ⟨chains, -, failed⟩
    · obtain ⟨entry, known, failed⟩ := exists_of_mapM_eq_error failed
      obtain ⟨flaw, rfl, refused | ⟨gap, given, refused⟩⟩ := entry.exists_text_of_error failed
      · refine ⟨signature, member, sequence, listed, .inl ⟨entry.pattern, ?_, refused⟩⟩
        exact List.mem_append_right _ (List.mem_map_of_mem known)
      · refine ⟨signature, member, sequence, listed, .inr ⟨gap, ?_, refused⟩⟩
        exact List.mem_filterMap.2 ⟨entry, known, given⟩
    · cases failed

/-- So does what a signature fails with. -/
theorem marks_of_toSignature {signature : SignatureEntry}
    (member : signature ∈ document.signatures) (failed : signature.toSignature = .error error) :
    error.Marks document := by
  rcases bind_eq_error_iff.1 failed with failed | ⟨sequences, -, failed⟩
  · obtain ⟨sequence, listed, failed⟩ := exists_of_mapM_eq_error failed
    exact marks_of_toSequence member listed failed
  · cases failed

/-- **An error that is reported says what is wrong with the document.** -/
theorem marks_of_toLibrary (failed : document.toLibrary = .error error) :
    error.Marks document := by
  unfold toLibrary at failed
  split at failed
  · rename_i other
    cases failed
    exact ⟨rfl, other⟩
  · rcases bind_eq_error_iff.1 failed with failed | ⟨signatures, made, failed⟩
    · obtain ⟨signature, member, failed⟩ := exists_of_mapM_eq_error failed
      exact marks_of_toSignature member failed
    · obtain ⟨flaw, refused, rfl⟩ := mapError_eq_error_iff.1 failed
      exact ⟨signatures, made, Library.flaw?_marks (Library.prepare_eq_error_iff.mp refused)⟩

/-- **Documents bring no sequence that is broken.**  Whatever the texts of a document are, all
chains that are read from them can be matched.  An error says what is wrong with the document:
with its version, with an entry that is written in both forms, with one of its texts, or with the
library that it describes; and if it is with the shape of a sequence, then there is no chain in
that sequence. -/
theorem never_misshapen (document : LibraryDocument) :
    (∀ signatures, document.signatures.mapM SignatureEntry.toSignature = .ok signatures →
      ∀ signature ∈ signatures, ∀ sequence ∈ signature.sequences,
        ∀ sub ∈ sequence.subSequences, sub.WellFormed) ∧
    ∀ error, document.toLibrary = .error error → error.Marks document ∧
      ∀ id shape, error = .flaw (.shape id shape) → shape = .noSubSequence := by
  have sound : ∀ signatures,
      document.signatures.mapM SignatureEntry.toSignature = .ok signatures →
        ∀ signature ∈ signatures, ∀ sequence ∈ signature.sequences,
          ∀ sub ∈ sequence.subSequences, sub.WellFormed := by
    intro signatures made signature member
    obtain ⟨entry, -, made⟩ := exists_of_mapM_eq_ok made member
    exact entry.wellFormed_of_toSignature made
  refine ⟨sound, ?_⟩
  intro error failed
  have marks := marks_of_toLibrary failed
  refine ⟨marks, ?_⟩
  rintro id shape rfl
  obtain ⟨signatures, made, signature, member, -, sequence, listed, marks⟩ := marks
  exact marks.eq_noSubSequence (sound signatures made signature member sequence listed)

/-- A sequence in neither form is read as one without a chain. -/
example : LibraryDocument.toLibrary { version := "1", signatures :=
      [{ id := 1, sequences := [{ anchor := .bof }] }] } =
    .error (.flaw (.shape 1 .noSubSequence)) := by
  rfl

end LibraryDocument

end Discern
