import Discern.Proofs.Classification.Verdict
import Discern.Proofs.Library.Structure
import Mathlib.Data.List.Perm.Basic

/-!
# Libraries in another order

Whether a library is well-formed does not depend on the order in which its formats, its
signatures and the sequences of a signature are declared, and neither does what it says about a
content: the same formats show and stand, the same is reported on each of them, and only the order
of the hits may change (`Library.classify_reordered`).
-/

namespace Discern

/-- **The same signature with its sequences in another order,** whatever owners it carries. -/
structure Signature.Reorders (one other : Signature) : Prop where
  id : one.id = other.id
  specific : one.specific = other.specific
  sequences : one.sequences.Perm other.sequences

/-- **The same signatures in another order,** each with its sequences in another order. -/
def Signature.Reordered (signatures others : List Signature) : Prop :=
  ∃ listed, signatures.Perm listed ∧ List.Forall₂ Signature.Reorders listed others

theorem exists_of_forall₂ {α β : Type} {relation : α → β → Prop} {xs : List α} {ys : List β}
    (pairs : List.Forall₂ relation xs ys) {x : α} (member : x ∈ xs) : ∃ y ∈ ys, relation x y := by
  induction pairs with
  | nil => cases member
  | @cons first partner _ _ related _ ih =>
      rcases List.mem_cons.mp member with rfl | later
      · exact ⟨partner, List.mem_cons_self, related⟩
      · obtain ⟨y, listed, related⟩ := ih later
        exact ⟨y, List.mem_cons_of_mem _ listed, related⟩

namespace Signature

variable {signatures others : List Signature}

theorem Reorders.symm {one other : Signature} (reorders : one.Reorders other) :
    other.Reorders one :=
  ⟨reorders.id.symm, reorders.specific.symm, reorders.sequences.symm⟩

/-- A signature stays well formed when its sequences are reordered. -/
theorem Reorders.wellFormed {one other : Signature} (reorders : one.Reorders other)
    (wellFormed : one.WellFormed) : other.WellFormed where
  nonempty := by
    intro empty
    have none := reorders.sequences
    rw [empty] at none
    exact wellFormed.nonempty none.eq_nil
  sound sequence listed := wellFormed.sound sequence (reorders.sequences.mem_iff.mpr listed)

/-- Reordered signatures have the same ids, in some order. -/
theorem Reordered.map_id (reordered : Reordered signatures others) :
    (signatures.map Signature.id).Perm (others.map Signature.id) := by
  obtain ⟨listed, order, pairs⟩ := reordered
  have same : listed.map Signature.id = others.map Signature.id := by
    rw [← List.forall₂_eq_eq_eq, List.forall₂_map_left_iff, List.forall₂_map_right_iff]
    exact pairs.imp fun _ _ reorders => reorders.id
  exact same ▸ order.map Signature.id

theorem Reordered.symm (reordered : Reordered signatures others) :
    Reordered others signatures := by
  obtain ⟨listed, order, pairs⟩ := reordered
  -- Here the sequences change places before the signatures do, which comes to the same.
  have back : List.Forall₂ Reorders others listed := (pairs.imp fun _ _ => Reorders.symm).flip
  have round : Relation.Comp (List.Forall₂ Reorders) List.Perm others signatures :=
    ⟨listed, back, order.symm⟩
  rwa [List.forall₂_comp_perm_eq_perm_comp_forall₂] at round

/-- Every signature is found among the reordered ones. -/
theorem Reordered.exists_of_mem (reordered : Reordered signatures others) {signature : Signature}
    (declared : signature ∈ signatures) : ∃ other ∈ others, signature.Reorders other := by
  obtain ⟨listed, order, pairs⟩ := reordered
  exact exists_of_forall₂ pairs (order.mem_iff.mp declared)

/-- The sequences of a prepared signature are those of the declaration, in some order. -/
theorem accepts_prepareSignature (formats : List FileFormat) (signature : Signature)
    (content : Bytes) :
    (Library.prepareSignature formats signature).accepts content =
      signature.sequences.all fun sequence => sequence.prepare.occursIn content := by
  rw [accepts, Library.prepareSignature, List.all_map]
  exact (Library.inTrialOrder_perm signature.sequences).all_eq

/-- A reordered signature accepts the same contents, whatever the formats are that own it. -/
theorem Reorders.accepts_eq {one other : Signature} (reorders : one.Reorders other)
    (formats otherFormats : List FileFormat) (content : Bytes) :
    (Library.prepareSignature formats one).accepts content =
      (Library.prepareSignature otherFormats other).accepts content := by
  rw [accepts_prepareSignature, accepts_prepareSignature, reorders.sequences.all_eq]

end Signature

namespace Classification

/-- Only a content without hits is unidentified. -/
theorem status_ofHits_eq_unidentified_iff (hits : List Hit) :
    (ofHits hits).status = .unidentified ↔ hits = [] := by
  have kept := List.mergeSort_perm hits precedes
  change statusOf (hits.mergeSort precedes) = _ ↔ _
  cases sorted : hits.mergeSort precedes with
  | nil =>
      rw [sorted] at kept
      exact iff_of_true rfl kept.nil_eq.symm
  | cons first later =>
      rw [sorted] at kept
      refine iff_of_false ?_ fun none => ?_
      · rw [statusOf]
        split_ifs <;> simp
      · rw [none] at kept
        cases kept.eq_nil

/-- The outcome does not depend on the order in which hits are found. -/
theorem status_ofHits_perm {hits others : List Hit} (order : hits.Perm others) :
    (ofHits hits).status = (ofHits others).status := by
  have positive : (ofHits hits).status = .positive ↔ (ofHits others).status = .positive := by
    simp only [status_ofHits_eq_positive_iff, order.mem_iff]
  have unidentified :
      (ofHits hits).status = .unidentified ↔ (ofHits others).status = .unidentified := by
    simp only [status_ofHits_eq_unidentified_iff]
    exact ⟨fun none => (none ▸ order).nil_eq.symm, fun none => (none ▸ order).eq_nil⟩
  -- What is neither positive nor unidentified is tentative.
  cases one : (ofHits hits).status <;> cases other : (ofHits others).status <;> simp_all

/-- A classification lists the same hits, whatever the order in which they come in. -/
theorem hits_ofHits_perm {hits others : List Hit} (order : hits.Perm others) :
    (ofHits hits).hits.Perm (ofHits others).hits :=
  (List.mergeSort_perm hits precedes).trans
    (order.trans (List.mergeSort_perm others precedes).symm)

end Classification

namespace Library

/-- **All that one library declares, another one declares too.** -/
structure Within (library other : Library) : Prop where
  formats : library.formats ⊆ other.formats
  signatures : ∀ signature ∈ library.signatures, ∃ partner ∈ other.signatures,
    partner.id = signature.id ∧ partner.specific = signature.specific ∧
      ∀ content, partner.accepts content = signature.accepts content

variable {library other : Library} {content : Bytes} {format : FileFormat}

/-- A library within another one recognises no more than that. -/
theorem Within.recognises (within : library.Within other)
    (shows : library.Recognises content format) : other.Recognises content format := by
  obtain ⟨known, signature, declared, listed, complies⟩ := shows
  obtain ⟨partner, present, same, -, alike⟩ := within.signatures signature declared
  exact ⟨within.formats known, partner, present, same ▸ listed, (alike content).trans complies⟩

/-- Nor does it recognise more by specific signatures. -/
theorem Within.recognisesSpecifically (within : library.Within other)
    (shows : library.RecognisesSpecifically content format) :
    other.RecognisesSpecifically content format := by
  obtain ⟨known, signature, declared, listed, complies, specific⟩ := shows
  obtain ⟨partner, present, same, alsoSpecific, alike⟩ := within.signatures signature declared
  exact ⟨within.formats known, partner, present, same ▸ listed, (alike content).trans complies,
    alsoSpecific.trans specific⟩

/-- **Two libraries that declare the same** in different orders. -/
structure Alike (library other : Library) : Prop where
  formats : library.formats.Perm other.formats
  within : library.Within other
  contains : other.Within library

namespace Alike

variable (alike : library.Alike other)
include alike

/-- Libraries within each other recognise the same formats. -/
theorem recognises_iff : library.Recognises content format ↔ other.Recognises content format :=
  ⟨alike.within.recognises, alike.contains.recognises⟩

/-- Libraries within each other let the same formats stand. -/
theorem stands_iff : library.Stands content format ↔ other.Stands content format := by
  simp only [Stands, alike.recognises_iff]

/-- The same formats stand. -/
theorem standing_perm (content : Bytes) :
    (library.standing content).Perm (other.standing content) := by
  -- They are found in different orders, but each is listed once.
  have once : ∀ library : Library, (library.standing content).Nodup := by
    intro library
    have ordered := @standing_pairwise library content
    refine ordered.imp ?_
    rintro format _ before rfl
    exact Nat.lt_irrefl _ before
  rw [List.perm_ext_iff_of_nodup (once library) (once other)]
  intro format
  rw [mem_standing_iff, mem_standing_iff, alike.stands_iff]

/-- The same is reported on a format that stands. -/
theorem reported_eq (content : Bytes) (name : Option String) (format : FileFormat) :
    library.reported content name format = other.reported content name format := by
  have specific : (format, true) ∈ library.findings content ↔
      (format, true) ∈ other.findings content := by
    rw [mem_findings_iff, mem_findings_iff]
    exact ⟨alike.within.recognisesSpecifically, alike.contains.recognisesSpecifically⟩
  simp only [reported, specific]

/-- Reordered formats are suggested by the same extensions. -/
theorem suggested_perm (ext : String) :
    (Resolution.suggested library ext).Perm (Resolution.suggested other ext) :=
  (alike.formats.filter _).map Hit.tentative

/-- The same hits are left, in some order. -/
theorem resolve_perm (prepared : library.Prepared) (alsoPrepared : other.Prepared)
    (content : Bytes) (name : Option String) :
    (Resolution.resolve library (library.rawHits content) name).Perm
      (Resolution.resolve other (other.rawHits content) name) := by
  have standing := alike.standing_perm content
  have reports : library.reported content name = other.reported content name :=
    funext (alike.reported_eq content name)
  rw [prepared.resolve_rawHits, alsoPrepared.resolve_rawHits, reports]
  by_cases noneStands : library.standing content = []
  · have noOther : other.standing content = [] := (noneStands ▸ standing).nil_eq.symm
    rw [if_pos noneStands, if_pos noOther]
    cases name.bind fileExtension? with
    | none => exact .refl _
    | some ext => exact alike.suggested_perm ext
  · have someOther : other.standing content ≠ [] :=
      fun none => noneStands (none ▸ standing).eq_nil
    rw [if_neg noneStands, if_neg someOther]
    exact standing.map _

end Alike

variable {formats otherFormats : List FileFormat} {signatures others : List Signature}

/-- A library stays well formed when its formats and signatures are reordered. -/
theorem WellFormed.reordered (wellFormed : WellFormed formats signatures)
    (formatOrder : formats.Perm otherFormats)
    (signatureOrder : Signature.Reordered signatures others) :
    WellFormed otherFormats others where
  formatIds := (formatOrder.map FileFormat.id).nodup_iff.mp wellFormed.formatIds
  signatureIds := signatureOrder.map_id.nodup_iff.mp wellFormed.signatureIds
  targets := by simpa only [← formatOrder.mem_iff] using wellFormed.targets
  oneWay := by simpa only [← formatOrder.mem_iff] using wellFormed.oneWay
  resolved := by
    intro format known id listed
    obtain ⟨signature, declared, same⟩ :=
      wellFormed.resolved format (formatOrder.mem_iff.mpr known) id listed
    obtain ⟨other, present, reorders⟩ := signatureOrder.exists_of_mem declared
    exact ⟨other, present, reorders.id.symm.trans same⟩
  sound := by
    intro other declared
    obtain ⟨signature, present, reorders⟩ := signatureOrder.symm.exists_of_mem declared
    exact reorders.symm.wellFormed (wellFormed.sound signature present)

/-- A library is within every rearrangement of it. -/
theorem within_reordered (version : String) (formatOrder : formats.Perm otherFormats)
    (signatureOrder : Signature.Reordered signatures others) :
    Within ⟨version, formats, signatures.map (prepareSignature formats)⟩
      ⟨version, otherFormats, others.map (prepareSignature otherFormats)⟩ where
  formats := formatOrder.subset
  signatures := by
    intro _ member
    obtain ⟨signature, declared, rfl⟩ := List.mem_map.mp member
    obtain ⟨other, present, reorders⟩ := signatureOrder.exists_of_mem declared
    exact ⟨_, List.mem_map_of_mem present, reorders.id.symm, reorders.specific.symm,
      fun content => (reorders.accepts_eq formats otherFormats content).symm⟩

/-- **The order of declaration does not matter.**  A library whose formats, signatures and
sequences are declared in another order is accepted too, and it classifies every content alike. -/
theorem classify_reordered {version : String} {formats otherFormats : List FileFormat}
    {signatures others : List Signature} {library : Library}
    (prepared : prepare version formats signatures = .ok library)
    (formatOrder : formats.Perm otherFormats)
    (signatureOrder : Signature.Reordered signatures others) :
    ∃ other, prepare version otherFormats others = .ok other ∧
      ∀ content name,
        (other.classify content name).status = (library.classify content name).status ∧
        (other.classify content name).hits.Perm (library.classify content name).hits := by
  have sound := Prepared.of_prepare prepared
  obtain ⟨flawless, rfl⟩ := prepare_eq_ok_iff.mp prepared
  have wellFormed := (flaw?_eq_none_iff_wellFormed.mp flawless).reordered formatOrder signatureOrder
  have accepted : prepare version otherFormats others =
      .ok ⟨version, otherFormats, others.map (prepareSignature otherFormats)⟩ :=
    prepare_eq_ok_iff.mpr ⟨flaw?_eq_none_iff_wellFormed.mpr wellFormed, rfl⟩
  have alike : Alike ⟨version, otherFormats, others.map (prepareSignature otherFormats)⟩
      ⟨version, formats, signatures.map (prepareSignature formats)⟩ :=
    ⟨formatOrder.symm, within_reordered version formatOrder.symm signatureOrder.symm,
      within_reordered version formatOrder signatureOrder⟩
  refine ⟨_, accepted, fun content name => ?_⟩
  have order := alike.resolve_perm (Prepared.of_prepare accepted) sound content name
  exact ⟨Classification.status_ofHits_perm order, Classification.hits_ofHits_perm order⟩

/-- The formats and the signatures turned around, and the sequences of each signature too. -/
theorem classify_reordered_turned :
    ∃ library other, prepare "1" sharing borrowed = .ok library ∧
      prepare "1" sharing.reverse (borrowed.reverse.map fun signature =>
        { signature with sequences := signature.sequences.reverse }) = .ok other ∧
      ∀ content name,
        (other.classify content name).status = (library.classify content name).status ∧
        (other.classify content name).hits.Perm (library.classify content name).hits := by
  have prepared : prepare "1" sharing borrowed =
    .ok ⟨"1", sharing, borrowed.map (prepareSignature sharing)⟩ := by rfl
  have turned : Signature.Reordered borrowed (borrowed.reverse.map fun signature =>
      { signature with sequences := signature.sequences.reverse }) := by
    refine ⟨borrowed.reverse, (List.reverse_perm borrowed).symm, ?_⟩
    rw [List.forall₂_map_right_iff, List.forall₂_same]
    exact fun signature _ => ⟨rfl, rfl, (List.reverse_perm signature.sequences).symm⟩
  obtain ⟨other, accepted, alike⟩ :=
    classify_reordered prepared (List.reverse_perm sharing).symm turned
  exact ⟨_, other, prepared, accepted, alike⟩

end Library

end Discern
