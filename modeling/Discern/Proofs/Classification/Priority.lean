import Discern.Proofs.Classification.Verdict
import Mathlib.Order.WellFoundedSet

/-!
# Priority among hits

Pruning compares every hit with all hits, so that a hit can fall to one that falls
itself.  A prepared library has no format with priority over itself and no two with
priority over each other, but longer circles of priority remain: the formats of a circle
lose all their hits together (`Library.unidentified_of_circle`).  Without circles every
hit that falls leaves one above it that stays, and only then
(`Library.positive_kept_iff_acyclic`).
-/

namespace Discern

namespace Library

/-- The format with the first id declares priority over the one with the second. -/
def Outranks (library : Library) (one other : UInt32) : Prop :=
  ∃ format ∈ library.formats, format.id = one ∧ other ∈ format.hasPriorityOver

/-- **No circle of priorities.** -/
def Acyclic (library : Library) : Prop :=
  ∀ id, ¬Relation.TransGen library.Outranks id id

section Prepared

variable {library : Library} (prepared : library.Prepared)
include prepared

/-- Pruning keeps the hits over which no other hit has priority. -/
theorem Prepared.mem_prune_iff (hits : List Hit) (hit : Hit) :
    hit ∈ Resolution.prune library hits ↔
      hit ∈ hits ∧ ∀ other ∈ hits, ¬library.Outranks other.format hit.format := by
  rw [Resolution.mem_prune_iff]
  refine and_congr_right fun _ => forall₂_congr fun other _ => ?_
  constructor
  · rintro undominated ⟨format, known, same, dominates⟩
    exact undominated format ((prepared.format?_eq_some_iff _ _).mpr ⟨known, same⟩) dominates
  · intro below format found dominates
    obtain ⟨known, same⟩ := (prepared.format?_eq_some_iff _ _).mp found
    exact below ⟨format, known, same, dominates⟩

/-- **Every hit leaves one that stays,** at or above it.  The induction goes up along the
priorities, which end because the hits are finitely many and no circle leads back. -/
theorem Prepared.exists_kept (acyclic : library.Acyclic) (hits : List Hit) (hit : Hit)
    (member : hit ∈ hits) :
    ∃ kept ∈ Resolution.prune library hits,
      Relation.ReflTransGen library.Outranks kept.format hit.format := by
  have order : IsStrictOrder UInt32 (Relation.TransGen library.Outranks) :=
    { irrefl := acyclic, trans := fun _ _ _ => Relation.TransGen.trans }
  have grounded : ({id | id ∈ hits.map Hit.format}).WellFoundedOn
      (Relation.TransGen library.Outranks) := (List.finite_toSet _).wellFoundedOn
  refine grounded.induction (P := fun id => ∃ kept ∈ Resolution.prune library hits,
    Relation.ReflTransGen library.Outranks kept.format id) (List.mem_map_of_mem member) ?_
  intro id listed above
  obtain ⟨hit, member, rfl⟩ := List.mem_map.mp listed
  by_cases stays : hit ∈ Resolution.prune library hits
  · exact ⟨hit, stays, .refl⟩
  · rw [prepared.mem_prune_iff, not_and] at stays
    obtain ⟨other, present, outranks⟩ : ∃ other ∈ hits,
        library.Outranks other.format hit.format := by
      simpa only [not_forall, not_not, exists_prop] using stays member
    obtain ⟨kept, stays, chain⟩ :=
      above other.format (List.mem_map_of_mem present) (.single outranks)
    exact ⟨kept, stays, chain.tail outranks⟩

/-- **A circle falls as a whole:** every format on it is below another one. -/
theorem Prepared.exists_prune_eq_nil {id : UInt32}
    (circle : Relation.TransGen library.Outranks id id) :
    ∃ formats ≠ [], (∀ format ∈ formats, format ∈ library.formats) ∧
      Resolution.prune library (formats.map (Hit.positive · false)) = [] := by
  classical
  let onCircle : FileFormat → Prop := fun format =>
    Relation.TransGen library.Outranks id format.id ∧
      Relation.TransGen library.Outranks format.id id
  have above : ∀ target, Relation.TransGen library.Outranks id target →
      Relation.TransGen library.Outranks target id →
      ∃ format ∈ library.formats.filter (onCircle ·), library.Outranks format.id target := by
    intro target down up
    obtain ⟨source, reached, outranks⟩ := Relation.TransGen.tail'_iff.mp down
    obtain ⟨format, known, rfl, dominates⟩ := outranks
    have outranks : library.Outranks format.id target := ⟨format, known, rfl, dominates⟩
    refine ⟨format, List.mem_filter.mpr ⟨known, decide_eq_true ⟨?_, up.head outranks⟩⟩, outranks⟩
    rcases Relation.reflTransGen_iff_eq_or_transGen.mp reached with same | further
    · rw [same]
      exact circle
    · exact further
  refine ⟨library.formats.filter (onCircle ·), ?_, fun format member =>
    (List.mem_filter.mp member).1, List.eq_nil_iff_forall_not_mem.mpr fun hit stays => ?_⟩
  · obtain ⟨format, member, -⟩ := above id circle circle
    exact List.ne_nil_of_mem member
  · obtain ⟨member, highest⟩ := (prepared.mem_prune_iff _ _).mp stays
    obtain ⟨format, listed, rfl⟩ := List.mem_map.mp member
    obtain ⟨down, up⟩ : onCircle format := of_decide_eq_true (List.mem_filter.mp listed).2
    obtain ⟨other, present, outranks⟩ := above format.id down up
    exact highest _ (List.mem_map_of_mem present) outranks

/-- Without circles some format stands wherever one shows. -/
theorem Prepared.exists_stands (acyclic : library.Acyclic) {content : Bytes}
    {format : FileFormat} (shows : library.Recognises content format) :
    ∃ top, library.Stands content top := by
  have member : Hit.positive format false ∈
      (library.discoveries content).map (Hit.positive · false) :=
    List.mem_map_of_mem (mem_discoveries_iff.mpr shows)
  obtain ⟨kept, stays, -⟩ := prepared.exists_kept acyclic _ _ member
  obtain ⟨found, highest⟩ := (prepared.mem_prune_iff _ _).mp stays
  obtain ⟨top, present, rfl⟩ := List.mem_map.mp found
  refine ⟨top, mem_discoveries_iff.mp present, fun other also dominates => ?_⟩
  exact highest _ (List.mem_map_of_mem (mem_discoveries_iff.mpr also))
    ⟨other, also.1, rfl, dominates⟩

end Prepared

/-- **Without circles, and only then, priority keeps a positive identification.**  Pruning
leaves a hit of every list of positive hits exactly where the priorities have no circle.
There a hit falls only below one that stays, and a content that shows a format is positive;
in general it is positive exactly when some format stands. -/
theorem positive_kept_iff_acyclic {version : String} {formats : List FileFormat}
    {signatures : List Signature} {library : Library}
    (prepared : prepare version formats signatures = .ok library) :
    (library.Acyclic ↔ ∀ hits ≠ [],
      (∀ hit ∈ hits, hit.isPositive = true ∧ ∃ format ∈ library.formats, hit.format = format.id) →
        Resolution.prune library hits ≠ []) ∧
    (library.Acyclic → ∀ hits, ∀ hit ∈ hits, ∃ kept ∈ Resolution.prune library hits,
      Relation.ReflTransGen library.Outranks kept.format hit.format) ∧
    (library.Acyclic → ∀ content name, (∃ format, library.Recognises content format) →
      (library.classify content name).status = .positive) ∧
    ∀ content name, (library.classify content name).status = .positive ↔
      ∃ format, library.Stands content format := by
  have sound := Prepared.of_prepare prepared
  refine ⟨⟨fun acyclic hits nonempty _ emptied => ?_, fun keeps id circle => ?_⟩,
    sound.exists_kept, fun acyclic content name shown => ?_,
    sound.status_classify_eq_positive_iff⟩
  · obtain ⟨hit, member⟩ := List.exists_mem_of_ne_nil _ nonempty
    obtain ⟨kept, stays, -⟩ := sound.exists_kept acyclic hits hit member
    rw [emptied] at stays
    exact List.not_mem_nil stays
  · obtain ⟨formats, nonempty, known, emptied⟩ := sound.exists_prune_eq_nil circle
    refine keeps _ (List.map_eq_nil_iff.not.mpr nonempty) (fun hit member => ?_) emptied
    obtain ⟨format, listed, rfl⟩ := List.mem_map.mp member
    exact ⟨Hit.positive_isPositive .., format, known format listed, rfl⟩
  · obtain ⟨format, shows⟩ := shown
    exact (sound.status_classify_eq_positive_iff content name).mpr
      (sound.exists_stands acyclic shows)

/-- Priorities that go to smaller ids only have no circle. -/
theorem acyclic_of_descending {library : Library}
    (descending : ∀ one other, library.Outranks one other → other < one) : library.Acyclic := by
  intro id circle
  have below : ∀ {one other}, Relation.TransGen library.Outranks one other → other < one := by
    intro one other chain
    induction chain with
    | single first => exact descending _ _ first
    | tail _ last ih => exact UInt32.lt_trans (descending _ _ last) ih
  exact UInt32.lt_irrefl _ (below circle)

/-- Packages outrank each other without a circle, and so a content that they share is identified. -/
theorem classify_packages_positive :
    ∃ library, prepare "1" packages packageSignatures = .ok library ∧ library.Acyclic ∧
      (library.classify [0x50, 0x4B] none).status = .positive := by
  have prepared : prepare "1" packages packageSignatures =
    .ok ⟨"1", packages, packageSignatures.map (prepareSignature packages)⟩ := by rfl
  have acyclic : Acyclic ⟨"1", packages, packageSignatures.map (prepareSignature packages)⟩ := by
    refine acyclic_of_descending ?_
    rintro one other ⟨format, known, rfl, dominates⟩
    simp only [packages, List.mem_cons, List.not_mem_nil, or_false] at known
    rcases known with rfl | rfl | rfl | rfl <;> simp_all
  refine ⟨_, prepared, acyclic, (positive_kept_iff_acyclic prepared).2.2.1 acyclic _ _ ?_⟩
  exact ⟨_, List.mem_cons_self, _, List.mem_cons_self, by decide, by cbv⟩

/-- Three formats of which each has priority over the next one. -/
def circle : List FileFormat :=
  [{ id := 1, name := "rock", tag := ⟨"rock", by decide⟩, signatures := [10],
      hasPriorityOver := [2] },
    { id := 2, name := "scissors", tag := ⟨"scissors", by decide⟩, signatures := [10],
      hasPriorityOver := [3] },
    { id := 3, name := "paper", tag := ⟨"paper", by decide⟩, signatures := [10],
      hasPriorityOver := [1] }]

/-- A circle of three priorities leaves no hit, though the content is recognised. -/
theorem unidentified_of_circle :
    ∃ library, prepare "1" circle packageSignatures = .ok library ∧
      (∃ format, library.Recognises [0x50, 0x4B] format) ∧
      library.classify [0x50, 0x4B] none = ⟨[], .unidentified⟩ := by
  refine ⟨_, rfl, ?_, ?_⟩
  · exact ⟨_, List.mem_cons_self, _, List.mem_cons_self, by decide, by cbv⟩
  · cbv

end Library

end Discern
