import Discern.Proofs.Library.Validation
import Discern.Proofs.Sorting

/-!
# The structure of prepared libraries

Preparation keeps the formats, and of each signature all that it declares; it only puts the byte
sequences in the order in which they are tried.  What it adds comes from the declarations alone:
the owners of a signature from the formats that list it, and the steps of a sequence from its
fragments.  So a library that is prepared again stays as it is.
-/

namespace Discern

/-- The sequence without its steps: what was declared. -/
def ByteSequence.declared (sequence : ByteSequence) : ByteSequence := { sequence with steps := [] }

/-- **What preparation makes of a signature** that is declared beside some formats.  Its owners
are the formats that list it, each once and in the order of their declaration.  Its sequences are
the declared ones, ordered by their anchors and under one anchor as they were declared.  Each of
them has its own steps, one for each fragment. -/
structure Signature.PreparedFrom (formats : List FileFormat) (declared prepared : Signature) :
    Prop where
  id : prepared.id = declared.id
  specific : prepared.specific = declared.specific
  owners : ∀ id, id ∈ prepared.owners ↔
    ∃ format ∈ formats, format.id = id ∧ declared.id ∈ format.signatures
  ownersOnce : prepared.owners.Nodup
  ownersOrder : prepared.owners.Sublist (formats.map FileFormat.id)
  sequences : (prepared.sequences.map ByteSequence.declared).Perm
    (declared.sequences.map ByteSequence.declared)
  byAnchor : prepared.sequences.Pairwise fun one other => one.anchor.rank ≤ other.anchor.rank
  stable : ∀ anchor, (prepared.sequences.filter (·.anchor = anchor)).map ByteSequence.declared =
    (declared.sequences.filter (·.anchor = anchor)).map ByteSequence.declared
  steps : ∀ sequence ∈ prepared.sequences, sequence.steps = sequence.flatten ∧
    sequence.steps.length = (sequence.subSequences.flatMap SubSequence.fragments).length ∧
    0 < sequence.steps.length

/-! ## Steps -/

namespace SubSequence.WellFormed

variable {sub : SubSequence} (wellFormed : sub.WellFormed)
include wellFormed

theorem length_stepsForward : sub.stepsForward.length = sub.fragments.length := by
  simp [stepsForward, wellFormed.aligned]

theorem length_stepsBackward : sub.stepsBackward.length = sub.fragments.length := by
  simp [stepsBackward, wellFormed.aligned]

end SubSequence.WellFormed

namespace ByteSequence

/-- Preparation keeps a sequence well formed. -/
theorem WellFormed.prepare {sequence : ByteSequence} (wellFormed : sequence.WellFormed) :
    sequence.prepare.WellFormed :=
  ⟨wellFormed.nonempty, wellFormed.sound⟩

/-- A sequence has one step for each fragment. -/
theorem WellFormed.length_flatten {sequence : ByteSequence} (wellFormed : sequence.WellFormed) :
    sequence.flatten.length = (sequence.subSequences.flatMap SubSequence.fragments).length := by
  rw [flatten, List.length_modifyHead, chain, List.length_flatMap]
  split
  · have backward : sequence.subSequences.map (fun sub => sub.stepsBackward.length) =
        sequence.subSequences.map fun sub => sub.fragments.length :=
      List.map_congr_left fun sub member => (wellFormed.sound sub member).length_stepsBackward
    rw [List.length_flatMap, List.map_reverse, List.sum_reverse, backward]
  · have forward : sequence.subSequences.map (fun sub => sub.stepsForward.length) =
        sequence.subSequences.map fun sub => sub.fragments.length :=
      List.map_congr_left fun sub member => (wellFormed.sound sub member).length_stepsForward
    rw [List.length_flatMap, forward]

/-- A well formed sequence has fragments. -/
theorem WellFormed.fragments_ne_nil {sequence : ByteSequence} (wellFormed : sequence.WellFormed) :
    sequence.subSequences.flatMap SubSequence.fragments ≠ [] := by
  obtain ⟨sub, member⟩ := List.exists_mem_of_ne_nil _ wellFormed.nonempty
  obtain ⟨fragment, listed⟩ := List.exists_mem_of_ne_nil _ (wellFormed.sound sub member).nonempty
  exact List.ne_nil_of_mem (List.mem_flatMap_of_mem member listed)

end ByteSequence

/-! ## Trial order -/

namespace Library

variable {sequences : List ByteSequence}

/-- The trial order only reorders. -/
theorem inTrialOrder_perm (sequences : List ByteSequence) :
    (inTrialOrder sequences).Perm sequences := List.mergeSort_perm ..

private theorem rank_trans (one other third : ByteSequence) :
    decide (one.anchor.rank ≤ other.anchor.rank) = true →
      decide (other.anchor.rank ≤ third.anchor.rank) = true →
        decide (one.anchor.rank ≤ third.anchor.rank) = true := by
  simpa using Nat.le_trans

private theorem rank_total (one other : ByteSequence) :
    (decide (one.anchor.rank ≤ other.anchor.rank) ||
      decide (other.anchor.rank ≤ one.anchor.rank)) = true := by
  simpa using Nat.le_total ..

/-- The trial order is one of anchors. -/
theorem inTrialOrder_pairwise (sequences : List ByteSequence) :
    (inTrialOrder sequences).Pairwise fun one other => one.anchor.rank ≤ other.anchor.rank :=
  (List.pairwise_mergeSort rank_trans rank_total sequences).imp of_decide_eq_true

/-- What is sorted already stays as it is. -/
theorem inTrialOrder_of_pairwise
    (ordered : sequences.Pairwise fun one other => one.anchor.rank ≤ other.anchor.rank) :
    inTrialOrder sequences = sequences :=
  List.mergeSort_of_pairwise (ordered.imp decide_eq_true)

/-- Under one anchor the order of declaration is kept. -/
theorem filter_inTrialOrder (sequences : List ByteSequence) (anchor : Anchor) :
    (inTrialOrder sequences).filter (·.anchor = anchor) =
      sequences.filter (·.anchor = anchor) := by
  refine filter_mergeSort rank_trans rank_total (fun one other first second => ?_) sequences
  have same : one.anchor = other.anchor := (of_decide_eq_true first).trans
    (of_decide_eq_true second).symm
  exact decide_eq_true (Nat.le_of_eq (congrArg Anchor.rank same))

/-- A prepared list of sequences is sorted as its declarations are. -/
theorem inTrialOrder_map_prepare (sequences : List ByteSequence) :
    inTrialOrder ((inTrialOrder sequences).map ByteSequence.prepare) =
      (inTrialOrder sequences).map ByteSequence.prepare :=
  inTrialOrder_of_pairwise (List.pairwise_map.mpr (inTrialOrder_pairwise sequences))

/-! ## Prepared signatures -/

variable {formats : List FileFormat} {signatures : List Signature}

/-- The owners of a signature are the formats that list it. -/
theorem mem_ownersOf_iff {id owner : UInt32} :
    owner ∈ ownersOf formats id ↔ ∃ format ∈ formats, format.id = owner ∧ id ∈ format.signatures := by
  simp only [ownersOf, List.mem_map, List.mem_filter, decide_eq_true_eq]
  exact exists_congr fun format => by tauto

/-- A signature is prepared as the specification says. -/
theorem prepareSignature_preparedFrom (distinct : (formats.map FileFormat.id).Nodup)
    {signature : Signature} (wellFormed : signature.WellFormed) :
    signature.PreparedFrom formats (prepareSignature formats signature) where
  id := rfl
  specific := rfl
  owners _ := mem_ownersOf_iff
  ownersOnce := (ownersOf_sublist formats signature.id).nodup distinct
  ownersOrder := ownersOf_sublist formats signature.id
  sequences := by
    rw [prepareSignature, List.map_map]
    exact (inTrialOrder_perm signature.sequences).map ByteSequence.declared
  byAnchor := List.pairwise_map.mpr (inTrialOrder_pairwise signature.sequences)
  stable anchor := by
    rw [prepareSignature, List.filter_map, List.map_map, ← filter_inTrialOrder]
    rfl
  steps := by
    intro sequence listed
    obtain ⟨declared, tried, rfl⟩ := List.mem_map.mp listed
    have shaped := wellFormed.sound declared (mem_inTrialOrder.mp tried)
    have counted : declared.prepare.steps.length =
        (declared.subSequences.flatMap SubSequence.fragments).length := shaped.length_flatten
    exact ⟨rfl, counted, counted ▸ List.length_pos_of_ne_nil shaped.fragments_ne_nil⟩

/-- Preparation leaves what is prepared. -/
theorem prepareSignature_prepareSignature (signature : Signature) :
    prepareSignature formats (prepareSignature formats signature) =
      prepareSignature formats signature := by
  have settled : (inTrialOrder (prepareSignature formats signature).sequences).map
      ByteSequence.prepare = (prepareSignature formats signature).sequences := by
    rw [prepareSignature, inTrialOrder_map_prepare, List.map_map]
    rfl
  rw [prepareSignature, settled]
  rfl

/-- Prepared signatures are as well-formed as the declared ones. -/
theorem WellFormed.map_prepareSignature (wellFormed : WellFormed formats signatures) :
    WellFormed formats (signatures.map (prepareSignature formats)) where
  formatIds := wellFormed.formatIds
  signatureIds := by
    rw [List.map_map]
    exact wellFormed.signatureIds
  targets := wellFormed.targets
  oneWay := wellFormed.oneWay
  resolved format known id listed := by
    obtain ⟨signature, declared, same⟩ := wellFormed.resolved format known id listed
    exact ⟨_, List.mem_map_of_mem declared, same⟩
  sound := by
    intro _ member
    obtain ⟨signature, declared, rfl⟩ := List.mem_map.mp member
    have sound := wellFormed.sound signature declared
    refine ⟨?_, fun _ listed => ?_⟩
    · obtain ⟨sequence, listed⟩ := List.exists_mem_of_ne_nil _ sound.nonempty
      exact List.ne_nil_of_mem (prepare_mem_sequences formats listed)
    · obtain ⟨sequence, tried, rfl⟩ := List.mem_map.mp listed
      exact (sound.sound sequence (mem_inTrialOrder.mp tried)).prepare

/-- **The structure of a prepared library.**  The formats are the given ones and are found by
their ids; the signatures stand in their order, each as preparation makes it from its declaration;
and preparing the library again gives the same library. -/
theorem prepare_structures {version : String} {formats : List FileFormat}
    {signatures : List Signature} {library : Library}
    (prepared : prepare version formats signatures = .ok library) :
    library.version = version ∧ library.formats = formats ∧
      (∀ id format, library.format? id = some format ↔ format ∈ formats ∧ format.id = id) ∧
      List.Forall₂ (Signature.PreparedFrom formats) signatures library.signatures ∧
      prepare library.version library.formats library.signatures = .ok library := by
  have found := (Prepared.of_prepare prepared).format?_eq_some_iff
  obtain ⟨flawless, rfl⟩ := prepare_eq_ok_iff.mp prepared
  have wellFormed := flaw?_eq_none_iff_wellFormed.mp flawless
  refine ⟨rfl, rfl, found, ?_, prepare_eq_ok_iff.mpr ⟨?_, ?_⟩⟩
  · rw [List.forall₂_map_right_iff, List.forall₂_same]
    exact fun signature declared =>
      prepareSignature_preparedFrom wellFormed.formatIds (wellFormed.sound signature declared)
  · exact flaw?_eq_none_iff_wellFormed.mpr wellFormed.map_prepareSignature
  · simp [prepareSignature_prepareSignature]

/-- Two formats that share a signature, which one of them lists twice. -/
def sharing : List FileFormat :=
  [{ id := 7, name := "bundle", tag := ⟨"jar", by decide⟩, signatures := [10, 20, 10],
      hasPriorityOver := [3] },
    { id := 3, name := "archive", tag := ⟨"ar", by decide⟩, signatures := [10] }]

/-- Signatures that carry owners and steps of another library. -/
def borrowed : List Signature :=
  [{ id := 20, specific := false, sequences := [{ anchor := .bof, subSequences :=
      [{ fragments := [.literal [0x3C]], gaps := [] }] }] },
    { id := 10, specific := true, owners := [99, 3], sequences := [
      { anchor := .variable, subSequences := [{ fragments := [⟨[none]⟩], gaps := [] }] },
      { anchor := .bof, offset := 2, steps := [⟨.none, .literal [0x50]⟩], subSequences :=
          [{ fragments := [.literal [0x50], .literal [0x4B]], gaps := [.exactly 1] },
            { offset := .atLeast 4, fragments := [.literal [0x03]], gaps := [] }] },
      { anchor := .variable, subSequences := [{ fragments := [.literal [0x01]], gaps := [] }] },
      { anchor := .eof, subSequences := [{ fragments := [.literal [0x05]], gaps := [] }] }] }]

/-- Signatures of another library lose their owners and get their own steps. -/
theorem prepare_structures_borrowed :
    ∃ library, prepare "1" sharing borrowed = .ok library ∧
      library.version = "1" ∧ library.formats = sharing ∧
      (∀ id format, library.format? id = some format ↔ format ∈ sharing ∧ format.id = id) ∧
      List.Forall₂ (Signature.PreparedFrom sharing) borrowed library.signatures ∧
      prepare library.version library.formats library.signatures = .ok library := by
  have prepared : prepare "1" sharing borrowed =
    .ok ⟨"1", sharing, borrowed.map (prepareSignature sharing)⟩ := by rfl
  exact ⟨_, prepared, prepare_structures prepared⟩

end Library

end Discern
