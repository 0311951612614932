import Discern.Proofs.Library.Linking

/-!
# Preparation of libraries

What a successful `Library.prepare` tells about the library it gives: which checks
its formats and signatures have passed (`Library.flaw?_eq_none_iff`), and what later
proofs use of them (`Library.Prepared`).  Formats are found by their ids
(`Library.Prepared.format?_eq_some_iff`), and the owners of a signature are the formats
that list it (`Library.Prepared.filterMap_owners`).
-/

namespace Discern

/-- A sub-sequence without a flaw has fragments, none of them empty, a gap between any two, and
bounds in order. -/
theorem SubSequence.flaw?_eq_none_iff (sub : SubSequence) :
    sub.flaw? = none ↔
      sub.fragments ≠ [] ∧ (∀ fragment ∈ sub.fragments, fragment.cells ≠ []) ∧
        sub.gaps.length + 1 = sub.fragments.length ∧
        ∀ gap ∈ sub.offset :: sub.gaps, gap.inverted? = none := by
  unfold flaw?
  split_ifs with noFragment emptyFragment misaligned
  · simp_all
  · simp only [List.any_eq_true, Fragment.isEmpty, List.isEmpty_iff] at emptyFragment
    obtain ⟨fragment, member, empty⟩ := emptyFragment
    simp only [false_iff]
    exact fun sound => sound.2.1 fragment member empty
  · simp only [false_iff]
    exact fun sound => misaligned sound.2.2.1
  · simp only [List.any_eq_true, Fragment.isEmpty, List.isEmpty_iff, not_exists, not_and]
      at emptyFragment
    simp only [List.isEmpty_iff] at noFragment
    simp only [List.findSome?_eq_none_iff, Option.map_eq_none_iff]
    exact ⟨fun gaps => ⟨noFragment, emptyFragment, not_not.mp misaligned, gaps⟩,
      fun sound => sound.2.2.2⟩

/-- A sequence without a flaw has sub-sequences, all of them without a flaw. -/
theorem ByteSequence.flaw?_eq_none_iff (sequence : ByteSequence) :
    sequence.flaw? = none ↔
      sequence.subSequences ≠ [] ∧ ∀ sub ∈ sequence.subSequences, sub.flaw? = none := by
  unfold flaw?
  split_ifs with empty
  · simp_all
  · simp only [List.isEmpty_iff] at empty
    simp [empty]

/-- Nothing is repeated behind elements that were seen if all are new and different. -/
private theorem firstRepeat?_go_eq_none_iff {α : Type} [DecidableEq α] (seen xs : List α) :
    firstRepeat?.go seen xs = none ↔ xs.Nodup ∧ ∀ x ∈ xs, x ∉ seen := by
  induction xs generalizing seen with
  | nil => simp [firstRepeat?.go]
  | cons x rest ih =>
      rw [firstRepeat?.go]
      split_ifs with member
      · simp [member]
      · rw [ih, List.nodup_cons]
        constructor
        · rintro ⟨distinct, fresh⟩
          refine ⟨⟨fun again => fresh x again List.mem_cons_self, distinct⟩, ?_⟩
          rintro y (_ | ⟨_, later⟩)
          · exact member
          · exact fun before => fresh y later (List.mem_cons_of_mem _ before)
        · rintro ⟨⟨single, distinct⟩, fresh⟩
          refine ⟨distinct, fun y later before => ?_⟩
          rcases List.mem_cons.mp before with rfl | before
          · exact single later
          · exact fresh y (List.mem_cons_of_mem _ later) before

/-- Nothing is repeated among different elements. -/
theorem firstRepeat?_eq_none_iff {α : Type} [DecidableEq α] (xs : List α) :
    firstRepeat? xs = none ↔ xs.Nodup := by
  simp [firstRepeat?, firstRepeat?_go_eq_none_iff]

namespace Library

/-- **A library is without a flaw** when every check passes on all it is about. -/
theorem flaw?_eq_none_iff (formats : List FileFormat) (signatures : List Signature) :
    flaw? formats signatures = none ↔
      (formats.map FileFormat.id).Nodup ∧ (signatures.map Signature.id).Nodup ∧
        (∀ edge ∈ priorities formats, priorityFlaw? formats edge = none) ∧
        mutualPriority? formats = none ∧
        (∀ signature ∈ signatures, signatureFlaw? signature = none) ∧
        ∀ format ∈ formats, unresolvedSignature? signatures format = none := by
  simp [flaw?, firstRepeat?_eq_none_iff]

/-- A signature as preparation leaves it: with its owners and with prepared sequences. -/
def prepareSignature (formats : List FileFormat) (signature : Signature) : Signature :=
  { signature with
    sequences := (inTrialOrder signature.sequences).map ByteSequence.prepare
    owners := ownersOf formats signature.id }

/-- Preparation accepts what has no flaw, and prepares every signature. -/
theorem prepare_eq_ok_iff {version : String} {formats : List FileFormat}
    {signatures : List Signature} {library : Library} :
    prepare version formats signatures = .ok library ↔
      flaw? formats signatures = none ∧
        library = ⟨version, formats, signatures.map (prepareSignature formats)⟩ := by
  unfold prepare
  cases found : flaw? formats signatures with
  | none =>
      obtain ⟨formatIds, signatureIds, -⟩ := (flaw?_eq_none_iff _ _).mp found
      have prepared : (link formats (signatures.map Signature.disown)).map compile =
          signatures.map (prepareSignature formats) := by
        rw [link_disown formatIds signatureIds, List.map_map]
        rfl
      simp [prepared, eq_comm]
  | some flaw => simp

/-- Preparation refuses what has a flaw. -/
theorem prepare_eq_error_iff {version : String} {formats : List FileFormat}
    {signatures : List Signature} {flaw : LibraryFlaw} :
    prepare version formats signatures = .error flaw ↔
      flaw? formats signatures = some flaw := by
  unfold prepare
  cases flaw? formats signatures <;> simp

/-- The trial order holds the same sequences. -/
theorem mem_inTrialOrder {sequence : ByteSequence} {sequences : List ByteSequence} :
    sequence ∈ inTrialOrder sequences ↔ sequence ∈ sequences :=
  List.mem_mergeSort

/-- Every declared sequence is prepared. -/
theorem prepare_mem_sequences (formats : List FileFormat) {signature : Signature}
    {sequence : ByteSequence} (declared : sequence ∈ signature.sequences) :
    sequence.prepare ∈ (prepareSignature formats signature).sequences :=
  List.mem_map_of_mem (mem_inTrialOrder.mpr declared)

/-- A signature without a flaw has sequences, all of them without a flaw. -/
theorem signatureFlaw?_eq_none_iff (signature : Signature) :
    signatureFlaw? signature = none ↔
      signature.sequences ≠ [] ∧ ∀ sequence ∈ signature.sequences, sequence.flaw? = none := by
  unfold signatureFlaw?
  split_ifs with empty
  · simp_all
  · simp only [List.isEmpty_iff] at empty
    simp [empty]

/-- **A library that came out of preparation.** -/
structure Prepared (library : Library) : Prop where
  distinct : (library.formats.map FileFormat.id).Nodup
  resolved : ∀ edge ∈ priorities library.formats, priorityFlaw? library.formats edge = none
  oneWay : mutualPriority? library.formats = none
  owners : ∀ signature ∈ library.signatures,
    signature.owners = ownersOf library.formats signature.id
  flawless : ∀ signature ∈ library.signatures, ∀ sequence ∈ signature.sequences,
    ∃ declared : ByteSequence, declared.flaw? = none ∧ sequence = declared.prepare

/-- An accepted library is prepared. -/
theorem Prepared.of_prepare {version : String} {formats : List FileFormat}
    {signatures : List Signature} {library : Library}
    (prepared : prepare version formats signatures = .ok library) : library.Prepared := by
  obtain ⟨sound, rfl⟩ := prepare_eq_ok_iff.mp prepared
  obtain ⟨distinct, -, resolved, oneWay, shapes, -⟩ := (flaw?_eq_none_iff _ _).mp sound
  refine ⟨distinct, resolved, oneWay, fun signature member => ?_,
    fun signature member sequence listed => ?_⟩
  · obtain ⟨declared, -, rfl⟩ := List.mem_map.mp member
    rfl
  · obtain ⟨declared, known, rfl⟩ := List.mem_map.mp member
    obtain ⟨raw, tried, rfl⟩ := List.mem_map.mp listed
    exact ⟨raw, ((signatureFlaw?_eq_none_iff _).mp (shapes declared known)).2 raw
      (mem_inTrialOrder.mp tried), rfl⟩

namespace Prepared

variable {library : Library}

/-- Formats of a prepared library are told by their ids. -/
theorem eq_of_id_eq (prepared : library.Prepared) {one other : FileFormat}
    (first : one ∈ library.formats) (second : other ∈ library.formats)
    (same : one.id = other.id) : one = other :=
  List.inj_on_of_nodup_map prepared.distinct first second same

/-- Formats are found by their ids. -/
theorem format?_eq_some_iff (prepared : library.Prepared) (id : UInt32) (format : FileFormat) :
    library.format? id = some format ↔ format ∈ library.formats ∧ format.id = id := by
  constructor
  · intro found
    exact ⟨List.mem_of_find?_eq_some found, by simpa using List.find?_some found⟩
  · rintro ⟨member, rfl⟩
    obtain ⟨other, found⟩ : ∃ other, library.format? format.id = some other :=
      Option.isSome_iff_exists.mp (List.find?_isSome.mpr ⟨format, member, by simp⟩)
    have sameId : other.id = format.id := by simpa using List.find?_some found
    rw [found, prepared.eq_of_id_eq (List.mem_of_find?_eq_some found) member sameId]

/-- The owners of a signature are the formats that list it, in their order. -/
theorem filterMap_owners (prepared : library.Prepared) {signature : Signature}
    (member : signature ∈ library.signatures) :
    signature.owners.filterMap library.format? =
      library.formats.filter (signature.id ∈ ·.signatures) := by
  rw [prepared.owners signature member, ownersOf, List.filterMap_map]
  refine Eq.trans (List.filterMap_congr fun format listed => ?_) List.filterMap_some
  exact (prepared.format?_eq_some_iff _ _).mpr ⟨(List.mem_filter.mp listed).1, rfl⟩

end Prepared

end Library

end Discern
