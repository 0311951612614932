import Discern.Classification
import Discern.Proofs.Classification.Resolution
import Discern.Proofs.Sorting
import Mathlib.Data.Bool.Basic
import Mathlib.Data.Prod.Lex

/-!
# Exactness of classification

The formats that a content shows are those with a compliant signature
(`Library.Recognises`); those stand to which none of them has priority
(`Library.Stands`).  A classification lists exactly the standing formats, and only
where there are none those that the name of the file suggests
(`Library.classify_classifies`).
-/

namespace Discern

/-- What hits are sorted by: how sure they are, and then whether they are doubted. -/
def Hit.key (hit : Hit) : ℕ ×ₗ Bool := toLex (hit.confidence.rank, hit.warning.isSome)

/-- Hits in the order of their keys, where hits with one key keep their order. -/
structure SortsStably (found sorted : List Hit) : Prop where
  ordered : sorted.Pairwise fun one other => one.key ≤ other.key
  stable : ∀ key, sorted.filter (·.key = key) = found.filter (·.key = key)

/-- The two surest confidences are positive. -/
theorem Confidence.isPositive_iff (confidence : Confidence) :
    confidence.isPositive = true ↔ confidence.rank ≤ 1 := by
  cases confidence <;> decide

namespace Classification

/-- Hits are ordered by their keys. -/
theorem precedes_iff (one other : Hit) : precedes one other = true ↔ one.key ≤ other.key := by
  rw [precedes, Hit.key, Hit.key, Prod.Lex.le_iff]
  cases one.warning <;> cases other.warning <;> simp

/-- A classification sorts its hits, and keeps those with the same key in order. -/
theorem ofHits_sortsStably (hits : List Hit) : SortsStably hits (ofHits hits).hits := by
  have transitive : ∀ a b c : Hit, precedes a b → precedes b c → precedes a c := by
    intro a b c
    simpa only [precedes_iff] using le_trans
  have total : ∀ a b : Hit, precedes a b || precedes b a := by
    intro a b
    simpa only [Bool.or_eq_true, precedes_iff] using le_total a.key b.key
  refine ⟨?_, fun key => ?_⟩
  · exact (List.pairwise_mergeSort transitive total hits).imp fun before =>
      (precedes_iff _ _).mp before
  · refine filter_mergeSort transitive total (fun one other first second => ?_) hits
    have same : one.key = other.key :=
      (of_decide_eq_true first).trans (of_decide_eq_true second).symm
    exact (precedes_iff _ _).mpr same.le

/-- Hits of which one is positive have a positive one first. -/
theorem status_ofHits_eq_positive_iff (hits : List Hit) :
    (ofHits hits).status = .positive ↔ ∃ hit ∈ hits, hit.isPositive = true := by
  have ordered := (ofHits_sortsStably hits).ordered
  have same : ∀ hit, hit ∈ (ofHits hits).hits ↔ hit ∈ hits := fun hit =>
    (List.mergeSort_perm hits precedes).mem_iff
  simp only [← same]
  change statusOf (ofHits hits).hits = _ ↔ _
  cases sorted : (ofHits hits).hits with
  | nil => simp [statusOf]
  | cons first later =>
      rw [sorted, List.pairwise_cons] at ordered
      simp only [statusOf, ite_eq_left_iff, reduceCtorEq, imp_false, Bool.not_eq_true,
        Bool.not_eq_false]
      constructor
      · exact fun sure => ⟨first, List.mem_cons_self, sure⟩
      · rintro ⟨hit, member, sure⟩
        rcases List.mem_cons.mp member with rfl | behind
        · exact sure
        · have better : first.confidence.rank ≤ hit.confidence.rank :=
            Prod.Lex.monotone_fst _ _ (ordered.1 hit behind)
          rw [Hit.isPositive, Confidence.isPositive_iff] at sure ⊢
          exact better.trans sure

/-- Tentative hits are kept in order, and decide the status. -/
theorem ofHits_tentative (formats : List FileFormat) :
    ofHits (formats.map .tentative) =
      ⟨formats.map .tentative,
        if formats.map Hit.tentative = [] then .unidentified else .tentative⟩ := by
  have level : (formats.map Hit.tentative).Pairwise (precedes · ·) := by
    apply List.pairwise_of_forall_mem_list
    intro one first other second
    obtain ⟨_, -, rfl⟩ := List.mem_map.mp first
    obtain ⟨_, -, rfl⟩ := List.mem_map.mp second
    rfl
  rw [ofHits, List.mergeSort_of_pairwise level]
  cases formats <;> rfl

end Classification

namespace Library

section Findings

variable (library : Library) (content : Bytes)

/-- **The format shows in the content:** a signature that it lists complies. -/
def Recognises (format : FileFormat) : Prop :=
  format ∈ library.formats ∧ ∃ signature ∈ library.signatures,
    signature.id ∈ format.signatures ∧ signature.accepts content = true

/-- A specific signature of the format complies. -/
def RecognisesSpecifically (format : FileFormat) : Prop :=
  format ∈ library.formats ∧ ∃ signature ∈ library.signatures,
    signature.id ∈ format.signatures ∧ signature.accepts content = true ∧ signature.specific = true

/-- **The format stands:** it shows, and nothing that shows has priority over it. -/
def Stands (format : FileFormat) : Prop :=
  library.Recognises content format ∧
    ∀ other, library.Recognises content other → format.id ∉ other.hasPriorityOver

/-- The formats in the order in which they are found: by the compliant signatures, and
in the order of the library under one signature. -/
def discoveries : List FileFormat :=
  (library.compliant content).flatMap fun signature =>
    library.formats.filter (signature.id ∈ ·.signatures)

/-- The discoveries with whether the signature that made them is specific. -/
def findings : List (FileFormat × Bool) :=
  (library.compliant content).flatMap fun signature =>
    (library.formats.filter (signature.id ∈ ·.signatures)).map (·, signature.specific)

/-- The formats that stand, in the order in which they are found. -/
def standing : List FileFormat :=
  (library.discoveries content).eraseDups.filter fun format =>
    decide (∀ other ∈ library.discoveries content, format.id ∉ other.hasPriorityOver)

end Findings

/-- What resolution reports on a format that stands. -/
def reported (library : Library) (content : Bytes) (name : Option String) (format : FileFormat) :
    Hit :=
  let hit := Hit.positive format (decide ((format, true) ∈ library.findings content))
  if (name.bind fileExtension?).any format.hasExtension then hit else hit.doubted

/-- What is said about a format that stands. -/
structure Reports (library : Library) (content : Bytes) (name : Option String)
    (format : FileFormat) (hit : Hit) : Prop where
  identity : hit.format = format.id ∧ hit.formatId = format.formatId ∧ hit.name = format.name ∧
    hit.mimeType = format.mimeType
  specific : library.RecognisesSpecifically content format →
    hit.confidence = .positiveSpecific ∧ hit.specific = true
  generic : ¬library.RecognisesSpecifically content format →
    hit.confidence = .positiveGeneric ∧ hit.specific = false
  doubt : hit.warning = some .extensionMismatch ↔
    ¬∃ file ext, name = some file ∧ NamesExtension file ext ∧ format.hasExtension ext = true

/-- **The classification of a content** as its library declares it. -/
structure Classifies (library : Library) (content : Bytes) (name : Option String)
    (verdict : Classification) : Prop where
  positive : (∃ format, library.Stands content format) →
    verdict.status = .positive ∧ ∃ standing found,
      (∀ format, format ∈ standing ↔ library.Stands content format) ∧
      (standing.Pairwise fun one other =>
        (library.discoveries content).idxOf one < (library.discoveries content).idxOf other) ∧
      List.Forall₂ (library.Reports content name) standing found ∧
      SortsStably found verdict.hits
  tentative : (∀ format, ¬library.Stands content format) →
    ∀ file ext, name = some file → NamesExtension file ext →
      verdict.hits = (library.formats.filter fun format =>
        format.isExtensionOnly && format.hasExtension ext).map Hit.tentative ∧
      verdict.status = if verdict.hits = [] then .unidentified else .tentative
  unidentified : (∀ format, ¬library.Stands content format) →
    (∀ file ext, name = some file → ¬NamesExtension file ext) →
      verdict.hits = [] ∧ verdict.status = .unidentified

/-- Without its repetitions a list has its elements in the order of their first occurrence. -/
theorem pairwise_idxOf_eraseDups {α : Type} [DecidableEq α] (xs : List α) :
    xs.eraseDups.Pairwise fun one other => xs.idxOf one < xs.idxOf other := by
  induction xs using List.reverseRecOn with
  | nil => exact .nil
  | append_singleton earlier new ih =>
      have kept : earlier.eraseDups.Pairwise fun one other =>
          (earlier ++ [new]).idxOf one < (earlier ++ [new]).idxOf other := by
        refine ih.imp_of_mem fun {one other} first second before => ?_
        rwa [List.idxOf_append_of_mem (List.mem_eraseDups.mp first),
          List.idxOf_append_of_mem (List.mem_eraseDups.mp second)]
      rw [eraseDups_concat]
      split_ifs with again
      · exact kept
      · refine List.pairwise_append.mpr ⟨kept, List.pairwise_singleton _ _, ?_⟩
        intro one first other second
        obtain rfl := List.mem_singleton.mp second
        rw [List.idxOf_append_of_mem (List.mem_eraseDups.mp first),
          List.idxOf_append_of_notMem again]
        exact Nat.lt_add_right _ (List.idxOf_lt_length_of_mem (List.mem_eraseDups.mp first))

section Findings

variable {library : Library} {content : Bytes}

/-- There is one finding for each discovery. -/
theorem map_fst_findings :
    (library.findings content).map Prod.fst = library.discoveries content := by
  simp [findings, discoveries, List.map_flatMap, Function.comp_def]

/-- What is discovered in a content are the formats that are recognised in it. -/
theorem mem_discoveries_iff {format : FileFormat} :
    format ∈ library.discoveries content ↔ library.Recognises content format := by
  simp only [discoveries, compliant, List.mem_flatMap, List.mem_filter, decide_eq_true_eq,
    Recognises]
  tauto

/-- A finding is specific if a specific signature has led to it. -/
theorem mem_findings_iff {format : FileFormat} :
    (format, true) ∈ library.findings content ↔ library.RecognisesSpecifically content format := by
  simp only [findings, compliant, List.mem_flatMap, List.mem_filter, List.mem_map,
    decide_eq_true_eq, RecognisesSpecifically, Prod.mk.injEq]
  constructor
  · rintro ⟨signature, ⟨known, accepts⟩, format, ⟨member, listed⟩, rfl, specific⟩
    exact ⟨member, signature, known, listed, accepts, specific⟩
  · rintro ⟨member, signature, known, listed, accepts, specific⟩
    exact ⟨signature, ⟨known, accepts⟩, format, ⟨member, listed⟩, rfl, specific⟩

/-- Of the discoveries those stand over which no other one has priority. -/
theorem mem_standing_iff {format : FileFormat} :
    format ∈ library.standing content ↔ library.Stands content format := by
  simp only [standing, List.mem_filter, List.mem_eraseDups, decide_eq_true_eq,
    mem_discoveries_iff, Stands]

/-- What is reported of a discovery is a positive hit. -/
theorem reported_isPositive (name : Option String) (format : FileFormat) :
    (library.reported content name format).isPositive = true := by
  unfold reported
  dsimp only
  split_ifs <;> exact Hit.positive_isPositive format _

/-- The hit that is reported of a format is the one that the verdict asks for. -/
theorem reports_reported (name : Option String) (format : FileFormat) :
    library.Reports content name format (library.reported content name format) := by
  have declared : (name.bind fileExtension?).any format.hasExtension = true ↔
      ∃ file ext, name = some file ∧ NamesExtension file ext ∧ format.hasExtension ext = true := by
    simp only [Option.any_eq_true, Option.bind_eq_some_iff, fileExtension?_eq_some_iff]
    constructor
    · rintro ⟨ext, ⟨file, named, ending⟩, has⟩
      exact ⟨file, ext, named, ending, has⟩
    · rintro ⟨file, ext, named, ending, has⟩
      exact ⟨ext, ⟨file, named, ending⟩, has⟩
  refine ⟨?_, fun specific => ?_, fun generic => ?_, ?_⟩
  · unfold reported
    dsimp only
    split_ifs <;> exact ⟨rfl, rfl, rfl, rfl⟩
  · unfold reported
    rw [decide_eq_true (mem_findings_iff.mpr specific)]
    dsimp only
    split_ifs <;> exact ⟨rfl, rfl⟩
  · unfold reported
    rw [decide_eq_false (mem_findings_iff.not.mpr generic)]
    dsimp only
    split_ifs <;> exact ⟨rfl, rfl⟩
  · unfold reported
    dsimp only
    by_cases has : (name.bind fileExtension?).any format.hasExtension = true
    · rw [if_pos has]
      exact iff_of_false nofun (not_not.mpr (declared.mp has))
    · rw [if_neg has]
      exact iff_of_true rfl (declared.not.mp has)

/-- Formats stand in the order of their discovery. -/
theorem standing_pairwise :
    (library.standing content).Pairwise fun one other =>
      (library.discoveries content).idxOf one < (library.discoveries content).idxOf other :=
  (pairwise_idxOf_eraseDups _).filter _

end Findings

section Prepared

variable {library : Library} (prepared : library.Prepared) (content : Bytes)
include prepared

/-- There is one hit by signatures for each finding. -/
theorem Prepared.rawHits_eq :
    library.rawHits content =
      (library.findings content).map fun finding => .positive finding.1 finding.2 := by
  rw [rawHits, findings, List.map_flatMap]
  apply List.flatMap_congr
  intro signature member
  rw [prepared.filterMap_owners (List.mem_filter.mp member).1, List.map_map]
  rfl

/-- **What is left after pruning:** one hit for each format that stands. -/
theorem Prepared.prune_rawHits :
    Resolution.prune library (Resolution.deduplicate (library.rawHits content)) =
      (library.standing content).map fun format =>
        .positive format (decide ((format, true) ∈ library.findings content)) := by
  have known : ∀ format ∈ library.discoveries content, format ∈ library.formats :=
    fun format member => (mem_discoveries_iff.mp member).1
  have distinct : ∀ one ∈ library.findings content, ∀ other ∈ library.findings content,
      one.1.id = other.1.id → one.1 = other.1 := by
    intro one first other second
    rw [← map_fst_findings] at known
    exact prepared.eq_of_id_eq (known _ (List.mem_map_of_mem first))
      (known _ (List.mem_map_of_mem second))
  rw [prepared.rawHits_eq, Resolution.deduplicate_positive _ distinct, map_fst_findings]
  simp only [Resolution.prune, standing, List.filter_map]
  congr 1
  apply List.filter_congr
  intro format member
  rw [Bool.eq_iff_iff, Function.comp_apply, Hit.positive_format, Bool.not_eq_true',
    List.contains_eq_mem, decide_eq_false_iff_not, Resolution.mem_dominated_iff, decide_eq_true_eq]
  constructor
  · intro undominated other found dominates
    refine undominated ⟨_, List.mem_map_of_mem (List.mem_eraseDups.mpr found), other, ?_, dominates⟩
    exact (prepared.format?_eq_some_iff _ _).mpr ⟨known other found, rfl⟩
  · rintro undominated ⟨hit, hitMember, other, found, dominates⟩
    obtain ⟨origin, originMember, rfl⟩ := List.mem_map.mp hitMember
    obtain ⟨otherMember, sameId⟩ := (prepared.format?_eq_some_iff _ _).mp found
    have present := List.mem_eraseDups.mp originMember
    obtain rfl := prepared.eq_of_id_eq otherMember (known origin present) sameId
    exact undominated other present dominates

/-- Resolving the hits by signatures reports the formats that stand, or what the extension suggests
if none does. -/
theorem Prepared.resolve_rawHits (name : Option String) :
    Resolution.resolve library (library.rawHits content) name =
      if library.standing content = [] then
        ((name.bind fileExtension?).map (Resolution.suggested library)).getD []
      else (library.standing content).map (library.reported content name) := by
  rw [Resolution.resolve, prepared.prune_rawHits]
  split_ifs with noneStands
  · rw [noneStands]
    cases name.bind fileExtension? <;> rfl
  · cases extension : name.bind fileExtension? with
    | none =>
        simp only [Resolution.corroborate, List.map_map]
        apply List.map_congr_left
        intro format _
        simp [reported, extension]
    | some ext =>
        obtain ⟨first, later, split⟩ := List.exists_cons_of_ne_nil noneStands
        have sure : ((library.standing content).map fun format =>
            Hit.positive format (decide ((format, true) ∈ library.findings content))).any
              Hit.isPositive = true := by
          rw [split, List.map_cons, List.any_cons, Hit.positive_isPositive, Bool.true_or]
        rw [Resolution.corroborate, if_pos sure, List.map_map]
        apply List.map_congr_left
        intro format member
        have found : library.format? format.id = some format :=
          (prepared.format?_eq_some_iff _ _).mpr ⟨(mem_standing_iff.mp member).1.1, rfl⟩
        simp [reported, extension, Resolution.declares, found]

/-- A content is identified if a format stands. -/
theorem Prepared.status_classify_eq_positive_iff (name : Option String) :
    (library.classify content name).status = .positive ↔
      ∃ format, library.Stands content format := by
  rw [classify, Classification.status_ofHits_eq_positive_iff, prepared.resolve_rawHits]
  split_ifs with noneStands
  · have nothing : ¬∃ format, library.Stands content format := by
      rintro ⟨format, stands⟩
      have member := mem_standing_iff.mpr stands
      rw [noneStands] at member
      exact List.not_mem_nil member
    simp only [nothing, iff_false]
    rintro ⟨hit, member, sure⟩
    cases extension : name.bind fileExtension? with
    | none => simp [extension] at member
    | some ext =>
        rw [extension] at member
        obtain ⟨format, -, rfl⟩ := List.mem_map.mp member
        exact Bool.false_ne_true sure
  · obtain ⟨format, member⟩ := List.exists_mem_of_ne_nil _ noneStands
    refine iff_of_true ⟨_, List.mem_map_of_mem member, ?_⟩ ⟨format, mem_standing_iff.mp member⟩
    exact reported_isPositive ..

/-- **Without a name all hits are on formats that stand.** -/
theorem Prepared.mem_hits_iff {hit : Hit} :
    hit ∈ (library.classify content none).hits ↔
      ∃ format, library.Stands content format ∧ library.reported content none format = hit := by
  rw [classify, Classification.ofHits, List.mem_mergeSort, prepared.resolve_rawHits]
  by_cases noneStands : library.standing content = []
  · rw [if_pos noneStands]
    refine iff_of_false List.not_mem_nil ?_
    rintro ⟨format, stands, -⟩
    have member := mem_standing_iff.mpr stands
    rw [noneStands] at member
    exact List.not_mem_nil member
  · simp only [if_neg noneStands, List.mem_map, mem_standing_iff]

/-- Without a name a classification lists positive hits only. -/
theorem Prepared.isPositive_of_mem_hits {hit : Hit}
    (listed : hit ∈ (library.classify content none).hits) : hit.isPositive = true := by
  obtain ⟨format, -, rfl⟩ := (prepared.mem_hits_iff content).mp listed
  exact reported_isPositive none format

end Prepared

/-- **Exactness of classification.**  Every classification with a prepared library says
what the library declares about the content and the name of the file. -/
theorem classify_classifies {version : String} {formats : List FileFormat}
    {signatures : List Signature} {library : Library}
    (prepared : prepare version formats signatures = .ok library) (content : Bytes)
    (name : Option String) :
    library.Classifies content name (library.classify content name) := by
  have sound := Prepared.of_prepare prepared
  have hits := sound.resolve_rawHits content name
  have nothing : (∀ format, ¬library.Stands content format) → library.standing content = [] :=
    fun noneStands => List.eq_nil_iff_forall_not_mem.mpr fun format member =>
      noneStands format (mem_standing_iff.mp member)
  refine ⟨fun someStands => ?_, fun noneStands file ext named ending => ?_,
    fun noneStands unnamed => ?_⟩
  · obtain ⟨format, stands⟩ := someStands
    rw [if_neg (List.ne_nil_of_mem (mem_standing_iff.mpr stands))] at hits
    refine ⟨(sound.status_classify_eq_positive_iff content name).mpr ⟨format, stands⟩,
      library.standing content, _, fun _ => mem_standing_iff, standing_pairwise, ?_,
      Classification.ofHits_sortsStably _⟩
    rw [hits, List.forall₂_map_right_iff, List.forall₂_same]
    exact fun other _ => reports_reported name other
  · have extension : name.bind fileExtension? = some ext := by
      rw [named, Option.bind_some, (fileExtension?_eq_some_iff file ext).mpr ending]
    rw [if_pos (nothing noneStands), extension, Option.map_some, Option.getD_some] at hits
    rw [classify, hits, Resolution.suggested, Classification.ofHits_tentative]
    exact ⟨rfl, rfl⟩
  · have extension : name.bind fileExtension? = none := by
      rw [Option.bind_eq_none_iff]
      intro file named
      rw [Option.eq_none_iff_forall_ne_some]
      exact fun ext found => unnamed file ext named ((fileExtension?_eq_some_iff _ _).mp found)
    rw [if_pos (nothing noneStands), extension, Option.map_none, Option.getD_none] at hits
    rw [classify, hits]
    exact ⟨congrArg Classification.hits (Classification.ofHits_tentative []),
      congrArg Classification.status (Classification.ofHits_tentative [])⟩

/-- Formats of which each has priority over the one before, and that share signatures. -/
def packages : List FileFormat :=
  [{ id := 1, name := "archive", tag := ⟨"zip", by decide⟩, signatures := [10] },
    { id := 2, name := "package", tag := ⟨"opc", by decide⟩, signatures := [10],
      hasPriorityOver := [1] },
    { id := 3, name := "book", tag := ⟨"epub", by decide⟩, extensions := ["EPUB"],
      signatures := [10, 20], hasPriorityOver := [2] },
    { id := 4, name := "draft", tag := ⟨"draft", by decide⟩, signatures := [10] }]

/-- A generic signature of all packages and a specific one of books. -/
def packageSignatures : List Signature :=
  [{ id := 10, specific := false, sequences := [{ anchor := .bof, subSequences :=
      [{ offset := .none, fragments := [.literal [0x50, 0x4B]], gaps := [] }] }] },
    { id := 20, specific := true, sequences := [{ anchor := .variable, subSequences :=
      [{ offset := .none, fragments := [.literal [0x65, 0x70, 0x75, 0x62]], gaps := [] }] }] }]

/-- A book is discovered behind what it outranks, and classified as the verdict says. -/
theorem classify_book :
    ∃ library, prepare "1" packages packageSignatures = .ok library ∧
      (library.discoveries [0x50, 0x4B, 0, 0x65, 0x70, 0x75, 0x62]).map FileFormat.id =
        [1, 2, 3, 4, 3] ∧
      library.Classifies [0x50, 0x4B, 0, 0x65, 0x70, 0x75, 0x62] (some "a.epub")
        (library.classify [0x50, 0x4B, 0, 0x65, 0x70, 0x75, 0x62] (some "a.epub")) := by
  have prepared : prepare "1" packages packageSignatures =
    .ok ⟨"1", packages, packageSignatures.map (prepareSignature packages)⟩ := by rfl
  exact ⟨_, prepared, by cbv, classify_classifies prepared _ _⟩

end Library

end Discern
