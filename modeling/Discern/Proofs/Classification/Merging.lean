import Discern.Proofs.Classification.Priority
import Mathlib.Data.List.Perm.Basic

/-!
# Hits in any order

Merging keeps for every format one of the hits that are as sure as any (`Resolution.Merges`).
Which one that is does not depend on the order in which the hits were found, and neither does
what the later steps of the resolution make of them (`Library.resolve_permuted`).

The suggestions of an extension are added behind the merged hits and are not merged with them.
So a format without signatures is listed twice where it has been hit already and is suggested
again; hits by signatures are never doubled (`Library.formats_distinct_iff`).
-/

namespace Discern

/-- **A hit on a format of a library,** by a signature or by the name of a file. -/
inductive Library.Finds (library : Library) : Hit → Prop
  | positive {format : FileFormat} (known : format ∈ library.formats) (specific : Bool) :
      Finds library (.positive format specific)
  | tentative {format : FileFormat} (known : format ∈ library.formats) :
      Finds library (.tentative format)

/-- Every confidence has a rank of its own. -/
theorem Confidence.eq_of_rank_eq {one other : Confidence} (same : one.rank = other.rank) :
    one = other := by
  cases one <;> cases other <;> first | rfl | cases same

section Finds

variable {library : Library} {hit one other new : Hit}

/-- A hit is made of its format and its confidence. -/
theorem Library.Finds.exists_format (found : library.Finds hit) :
    ∃ format ∈ library.formats, hit =
      .ofFormat format hit.confidence (decide (hit.confidence = .positiveSpecific)) := by
  cases found with
  | positive known specific => cases specific <;> exact ⟨_, known, rfl⟩
  | tentative known => exact ⟨_, known, rfl⟩

variable (prepared : library.Prepared)
include prepared

/-- Two hits on one format with one confidence are the same hit. -/
theorem Library.Prepared.eq_of_format_eq (first : library.Finds one) (second : library.Finds other)
    (format : one.format = other.format) (confidence : one.confidence = other.confidence) :
    one = other := by
  obtain ⟨known, declared, sameOne⟩ := first.exists_format
  obtain ⟨also, alsoDeclared, sameOther⟩ := second.exists_format
  rw [sameOne, sameOther] at format
  obtain rfl : known = also := prepared.eq_of_id_eq declared alsoDeclared format
  rw [sameOne, sameOther, confidence]

/-- A surer hit on the same format takes the place of a hit. -/
theorem Library.Prepared.upgrade_eq (first : library.Finds hit) (second : library.Finds new)
    (same : hit.format = new.format) :
    Resolution.upgrade hit new =
      if new.confidence.rank < hit.confidence.rank then new else hit := by
  obtain ⟨known, declared, sameHit⟩ := first.exists_format
  obtain ⟨also, alsoDeclared, sameNew⟩ := second.exists_format
  rw [sameHit, sameNew] at same
  obtain rfl : known = also := prepared.eq_of_id_eq declared alsoDeclared same
  rw [Resolution.upgrade]
  split_ifs with surer
  · rw [sameHit, sameNew]
    rfl
  · rfl

end Finds

namespace Resolution

/-- **One of some hits, and as sure as any** of them on its format. -/
def Surest (hits : List Hit) (hit : Hit) : Prop :=
  hit ∈ hits ∧ ∀ other ∈ hits, other.format = hit.format →
    hit.confidence.rank ≤ other.confidence.rank

/-- **What is left of hits that are merged:** one for each format, as sure as any. -/
structure Merges (hits merged : List Hit) : Prop where
  distinct : (merged.map Hit.format).Nodup
  surest : ∀ hit ∈ merged, Surest hits hit
  covers : ∀ hit ∈ hits, ∃ kept ∈ merged, kept.format = hit.format

/-- An upgrade does not change what a hit is on. -/
@[simp]
theorem upgrade_format (hit new : Hit) : (upgrade hit new).format = hit.format := by
  rw [upgrade]
  split_ifs <;> rfl

/-- Merging a new hit into a known one does not change what the known one is on. -/
theorem upgrade_or_keep_format (new hit : Hit) :
    (if hit.format = new.format then upgrade hit new else hit).format = hit.format := by
  split_ifs
  · exact upgrade_format hit new
  · rfl

/-- Changing hits without changing their formats leaves the list of formats as it is. -/
theorem map_format_map {change : Hit → Hit} (kept : ∀ hit, (change hit).format = hit.format)
    (hits : List Hit) : (hits.map change).map Hit.format = hits.map Hit.format := by
  rw [List.map_map]
  exact List.map_congr_left fun hit _ => kept hit

section Merges

variable {library : Library} {hits others merged : List Hit} {hit new : Hit}

/-- A surest hit stays so if a hit comes in that is no surer. -/
theorem Surest.concat (surest : Surest hits hit)
    (below : new.format = hit.format → hit.confidence.rank ≤ new.confidence.rank) :
    Surest (hits ++ [new]) hit := by
  refine ⟨List.mem_append_left _ surest.1, fun other member same => ?_⟩
  rcases List.mem_append.mp member with earlier | last
  · exact surest.2 other earlier same
  · obtain rfl := List.mem_singleton.mp last
    exact below same

/-- Which hits are surest does not depend on the order of hits. -/
theorem Surest.of_perm (surest : Surest hits hit) (order : hits.Perm others) :
    Surest others hit :=
  ⟨order.mem_iff.mp surest.1, fun other member => surest.2 other (order.mem_iff.mpr member)⟩

/-- A hit on a format without one is added to the others. -/
theorem Merges.concat_of_fresh (merges : Merges hits merged)
    (fresh : ∀ kept ∈ merged, kept.format ≠ new.format) :
    Merges (hits ++ [new]) (merged ++ [new]) where
  distinct := by
    rw [List.map_append, List.map_singleton, ← List.concat_eq_append, List.nodup_concat]
    refine ⟨fun member => ?_, merges.distinct⟩
    obtain ⟨kept, listed, same⟩ := List.mem_map.mp member
    exact fresh kept listed same
  surest := by
    intro hit member
    rcases List.mem_append.mp member with earlier | last
    · exact (merges.surest hit earlier).concat fun same => absurd same.symm (fresh hit earlier)
    · obtain rfl := List.mem_singleton.mp last
      refine ⟨List.mem_append_right _ last, fun other found same => ?_⟩
      rcases List.mem_append.mp found with before | itself
      · obtain ⟨kept, listed, alike⟩ := merges.covers other before
        exact absurd (alike.trans same) (fresh kept listed)
      · rw [List.mem_singleton.mp itself]
  covers := by
    intro hit member
    rcases List.mem_append.mp member with earlier | last
    · obtain ⟨kept, listed, same⟩ := merges.covers hit earlier
      exact ⟨kept, List.mem_append_left _ listed, same⟩
    · exact ⟨hit, List.mem_append_right _ last, rfl⟩

variable (prepared : library.Prepared)
include prepared

/-- A hit on a format that has one upgrades that one. -/
theorem Merges.concat_of_known (merges : Merges hits merged)
    (found : ∀ hit ∈ hits ++ [new], library.Finds hit)
    (known : ∃ kept ∈ merged, kept.format = new.format) :
    Merges (hits ++ [new])
      (merged.map fun hit => if hit.format = new.format then upgrade hit new else hit) where
  distinct := by
    rw [map_format_map (upgrade_or_keep_format new)]
    exact merges.distinct
  surest := by
    intro hit member
    obtain ⟨kept, listed, rfl⟩ := List.mem_map.mp member
    have surest := merges.surest kept listed
    have last : new ∈ hits ++ [new] := List.mem_append_right _ (List.mem_singleton_self new)
    by_cases same : kept.format = new.format
    · rw [if_pos same, prepared.upgrade_eq (found kept (List.mem_append_left _ surest.1))
        (found new last) same]
      split_ifs with surer
      · refine ⟨last, fun other member alike => ?_⟩
        rcases List.mem_append.mp member with earlier | itself
        · exact surer.le.trans (surest.2 other earlier (alike.trans same.symm))
        · rw [List.mem_singleton.mp itself]
      · exact surest.concat fun _ => Nat.le_of_not_lt surer
    · rw [if_neg same]
      exact surest.concat fun alike => absurd alike.symm same
  covers := by
    have kept : ∀ {format}, (∃ kept ∈ merged, kept.format = format) →
        ∃ hit ∈ merged.map fun hit => if hit.format = new.format then upgrade hit new else hit,
          hit.format = format := by
      rintro _ ⟨kept, listed, rfl⟩
      exact ⟨_, List.mem_map_of_mem listed, upgrade_or_keep_format new kept⟩
    intro hit member
    rcases List.mem_append.mp member with earlier | last
    · exact kept (merges.covers hit earlier)
    · obtain rfl := List.mem_singleton.mp last
      exact kept known

/-- **Merging keeps one of the surest hits on each format.**  The induction adds the hits at the
end, as the fold does. -/
theorem deduplicate_merges (hits : List Hit) (found : ∀ hit ∈ hits, library.Finds hit) :
    Merges hits (deduplicate hits) := by
  induction hits using List.reverseRecOn with
  | nil => exact ⟨List.nodup_nil, List.forall_mem_nil _, List.forall_mem_nil _⟩
  | append_singleton earlier new ih =>
      have merges := ih fun hit member => found hit (List.mem_append_left _ member)
      rw [deduplicate, List.foldl_append, ← deduplicate, List.foldl_cons, List.foldl_nil, merge]
      by_cases known : ∃ kept ∈ deduplicate earlier, kept.format = new.format
      · have present : (deduplicate earlier).any (·.format = new.format) = true := by
          simpa only [List.any_eq_true, decide_eq_true_eq] using known
        rw [if_pos present]
        exact merges.concat_of_known prepared found known
      · have absent : ¬(deduplicate earlier).any (·.format = new.format) = true := by
          simpa only [List.any_eq_true, decide_eq_true_eq] using known
        rw [if_neg absent]
        exact merges.concat_of_fresh fun kept listed same => known ⟨kept, listed, same⟩

/-- On a format there is only one hit that is as sure as any. -/
theorem Surest.unique {other : Hit} (found : ∀ hit ∈ hits, library.Finds hit)
    (one : Surest hits hit) (two : Surest hits other) (same : hit.format = other.format) :
    hit = other := by
  have rank : hit.confidence.rank = other.confidence.rank :=
    Nat.le_antisymm (one.2 other two.1 same.symm) (two.2 hit one.1 same)
  exact prepared.eq_of_format_eq (found hit one.1) (found other two.1) same
    (Confidence.eq_of_rank_eq rank)

/-- Merged hits are the surest ones among those that came in. -/
theorem Merges.mem_iff (merges : Merges hits merged)
    (found : ∀ hit ∈ hits, library.Finds hit) : hit ∈ merged ↔ Surest hits hit := by
  refine ⟨merges.surest hit, fun surest => ?_⟩
  obtain ⟨kept, listed, same⟩ := merges.covers hit surest.1
  rwa [Surest.unique prepared found surest (merges.surest kept listed) same.symm]

/-- Hits in another order are merged to the same hits. -/
theorem deduplicate_perm (found : ∀ hit ∈ hits, library.Finds hit) (order : hits.Perm others) :
    (deduplicate hits).Perm (deduplicate others) := by
  have alsoFound : ∀ hit ∈ others, library.Finds hit :=
    fun hit member => found hit (order.mem_iff.mpr member)
  have merges := deduplicate_merges prepared hits found
  have mergesOthers := deduplicate_merges prepared others alsoFound
  rw [List.perm_ext_iff_of_nodup (.of_map _ merges.distinct) (.of_map _ mergesOthers.distinct)]
  intro hit
  rw [merges.mem_iff prepared found, mergesOthers.mem_iff prepared alsoFound]
  exact ⟨fun surest => surest.of_perm order, fun surest => surest.of_perm order.symm⟩

end Merges

section Order

variable (library : Library) {hits others : List Hit} (order : hits.Perm others)
include order

/-- Pruning keeps the same hits in any order. -/
theorem prune_perm : (prune library hits).Perm (prune library others) := by
  have same : prune library hits =
      hits.filter fun hit => !(dominated library others).contains hit.format := by
    apply List.filter_congr
    intro hit _
    rw [Bool.eq_iff_iff]
    simp only [Bool.not_eq_true', List.contains_eq_mem, decide_eq_false_iff_not,
      mem_dominated_iff, order.mem_iff]
  rw [same]
  exact order.filter _

/-- The extension speaks for the same hits in any order. -/
theorem corroborate_perm (ext : Option String) :
    (corroborate library hits ext).Perm (corroborate library others ext) := by
  cases ext with
  | none => exact order.map Hit.doubted
  | some ext =>
      have positive : hits.any Hit.isPositive = others.any Hit.isPositive := order.any_eq
      rw [corroborate, corroborate, positive]
      split_ifs
      · exact order.map _
      · exact order.append_right _

end Order

end Resolution

namespace Library

variable {version : String} {formats : List FileFormat} {signatures : List Signature}
  {library : Library} {hits others : List Hit} {hit : Hit}

/-- **The order of discovery does not matter.**  Hits on the formats of a prepared library are
resolved to the same hits, in some order, whatever the order is in which they come in. -/
theorem resolve_permuted (prepared : prepare version formats signatures = .ok library)
    (found : ∀ hit ∈ hits, library.Finds hit) (order : hits.Perm others) (name : Option String) :
    (Resolution.resolve library hits name).Perm (Resolution.resolve library others name) := by
  have merged := Resolution.deduplicate_perm (Prepared.of_prepare prepared) found order
  have pruned := Resolution.prune_perm library merged
  exact Resolution.corroborate_perm library pruned _

/-- Every package hit twice, first by its name and then by signatures. -/
def packageHits : List Hit :=
  packages.flatMap fun format => [.tentative format, .positive format (format.id = 3)]

/-- The library of packages, which has a format for every package hit. -/
theorem finds_packageHits : ∀ hit ∈ packageHits,
    Finds ⟨"1", packages, packageSignatures.map (prepareSignature packages)⟩ hit := by
  intro hit member
  obtain ⟨format, known, made⟩ := List.mem_flatMap.mp member
  rcases List.mem_cons.mp made with rfl | made
  · exact .tentative known
  · obtain rfl := List.mem_singleton.mp made
    exact .positive known _

/-- Hits on four packages in two orders: one is left on books and one on drafts. -/
theorem resolve_permuted_packages :
    ∃ library, prepare "1" packages packageSignatures = .ok library ∧
      (∀ hit ∈ packageHits, library.Finds hit) ∧ packageHits.Perm packageHits.reverse ∧
      (Resolution.resolve library packageHits (some "a.epub")).map Hit.name = ["book", "draft"] ∧
      (Resolution.resolve library packageHits.reverse (some "a.epub")).map Hit.name =
        ["draft", "book"] ∧
      (Resolution.resolve library packageHits (some "a.epub")).Perm
        (Resolution.resolve library packageHits.reverse (some "a.epub")) := by
  have prepared : prepare "1" packages packageSignatures =
    .ok ⟨"1", packages, packageSignatures.map (prepareSignature packages)⟩ := by rfl
  have order : packageHits.Perm packageHits.reverse := (List.reverse_perm _).symm
  have ext : fileExtension? "a.epub" = some "epub" := by decide +kernel
  refine ⟨_, prepared, finds_packageHits, order, ?_, ?_,
    resolve_permuted prepared finds_packageHits order _⟩
  · rw [Resolution.resolve, Option.bind_some, ext]
    decide +kernel
  · rw [Resolution.resolve, Option.bind_some, ext]
    decide +kernel

/-- No format among some hits has priority over that of this one. -/
def Tops (library : Library) (hits : List Hit) (hit : Hit) : Prop :=
  ∀ other ∈ hits, ¬library.Outranks other.format hit.format

/-- **The extension suggests a format that a hit is left on,** and no positive hit is left. -/
def SuggestsAgain (library : Library) (hits : List Hit) (ext : String) : Prop :=
  (∀ hit ∈ hits, library.Tops hits hit → hit.isPositive = false) ∧
    ∃ hit ∈ hits, library.Tops hits hit ∧ ∃ format ∈ library.formats, format.id = hit.format ∧
      format.isExtensionOnly = true ∧ format.hasExtension ext = true

/-- The suggestions of an extension are the formats that only an extension tells and that have
it. -/
theorem mem_suggested_iff {id : UInt32} {ext : String} :
    id ∈ (Resolution.suggested library ext).map Hit.format ↔ ∃ format ∈ library.formats,
      format.id = id ∧ format.isExtensionOnly = true ∧ format.hasExtension ext = true := by
  rw [Resolution.suggested, List.map_map, List.mem_map]
  refine exists_congr fun format => ?_
  rw [List.mem_filter, Bool.and_eq_true]
  constructor
  · rintro ⟨⟨known, suggests⟩, same⟩
    exact ⟨known, same, suggests⟩
  · rintro ⟨known, same, suggests⟩
    exact ⟨⟨known, suggests⟩, same⟩

section Distinct

variable (prepared : library.Prepared)
include prepared

/-- What is left of some hits after merging and pruning are the surest ones over which none has
priority. -/
theorem Prepared.mem_prune_deduplicate_iff (found : ∀ hit ∈ hits, library.Finds hit) :
    hit ∈ Resolution.prune library (Resolution.deduplicate hits) ↔
      Resolution.Surest hits hit ∧ library.Tops hits hit := by
  have merges := Resolution.deduplicate_merges prepared hits found
  rw [prepared.mem_prune_iff, merges.mem_iff prepared found]
  refine and_congr_right fun _ => ⟨fun highest other member outranks => ?_,
    fun tops other member => tops other (merges.surest other member).1⟩
  obtain ⟨kept, listed, same⟩ := merges.covers other member
  exact highest kept listed (same ▸ outranks)

/-- What holds of surer hits too can be told of the hits that are left from those that came in. -/
theorem Prepared.exists_left_iff (found : ∀ hit ∈ hits, library.Finds hit) (holds : Hit → Prop)
    (upward : ∀ {hit kept : Hit}, kept.format = hit.format →
      kept.confidence.rank ≤ hit.confidence.rank → holds hit → holds kept) :
    (∃ kept ∈ Resolution.prune library (Resolution.deduplicate hits), holds kept) ↔
      ∃ hit ∈ hits, library.Tops hits hit ∧ holds hit := by
  constructor
  · rintro ⟨kept, stays, here⟩
    obtain ⟨surest, tops⟩ := (prepared.mem_prune_deduplicate_iff found).mp stays
    exact ⟨kept, surest.1, tops, here⟩
  · rintro ⟨hit, member, tops, here⟩
    have merges := Resolution.deduplicate_merges prepared hits found
    obtain ⟨kept, listed, same⟩ := merges.covers hit member
    have surest := merges.surest kept listed
    have alsoTops : library.Tops hits kept := by rwa [Tops, same]
    exact ⟨kept, (prepared.mem_prune_deduplicate_iff found).mpr ⟨surest, alsoTops⟩,
      upward same (surest.2 hit member same.symm) here⟩

/-- Only suggestions can name a format again, and each names another one. -/
theorem Prepared.corroborate_distinct_iff {kept : List Hit}
    (distinct : (kept.map Hit.format).Nodup) (ext? : Option String) :
    ((Resolution.corroborate library kept ext?).map Hit.format).Nodup ↔
      ∀ ext, ext? = some ext → (∃ hit ∈ kept, hit.isPositive = true) ∨
        ∀ hit ∈ kept, hit.format ∉ (Resolution.suggested library ext).map Hit.format := by
  have others : ((Resolution.suggested library (ext?.getD "")).map Hit.format).Nodup := by
    rw [Resolution.suggested, List.map_map]
    exact prepared.distinct.sublist (List.filter_sublist.map FileFormat.id)
  cases ext? with
  | none =>
      have doubts : ∀ hit : Hit, hit.doubted.format = hit.format := fun _ => rfl
      rw [Resolution.corroborate, Resolution.map_format_map doubts]
      refine iff_of_true distinct fun ext missing => ?_
      cases missing
  | some ext =>
      simp only [Option.some.injEq, forall_eq', ← List.any_eq_true]
      rw [Resolution.corroborate]
      split_ifs with positive
      · rw [Resolution.map_format_map fun hit => by split_ifs <;> rfl]
        exact iff_of_true distinct (.inl positive)
      · rw [List.map_append, List.nodup_append', List.Disjoint]
        simp only [positive, false_or, Bool.false_eq_true]
        refine ⟨fun apart hit member => apart.2.2 (List.mem_map_of_mem member),
          fun apart => ⟨distinct, others, fun format member => ?_⟩⟩
        obtain ⟨hit, listed, rfl⟩ := List.mem_map.mp member
        exact apart hit listed

/-- The extension suggests nothing again where a positive hit is left, or hits on other formats
than those that it suggests. -/
theorem Prepared.not_suggestsAgain_iff (found : ∀ hit ∈ hits, library.Finds hit) (ext : String) :
    ¬library.SuggestsAgain hits ext ↔
      (∃ hit ∈ Resolution.prune library (Resolution.deduplicate hits), hit.isPositive = true) ∨
        ∀ hit ∈ Resolution.prune library (Resolution.deduplicate hits),
          hit.format ∉ (Resolution.suggested library ext).map Hit.format := by
  have positive := prepared.exists_left_iff found (·.isPositive = true) fun _ surer sure => by
      rw [Hit.isPositive, Confidence.isPositive_iff] at sure ⊢
      exact surer.trans sure
  have suggested := prepared.exists_left_iff found
    (·.format ∈ (Resolution.suggested library ext).map Hit.format) fun same _ again => same ▸ again
  rw [SuggestsAgain, not_and_or, positive]
  simp only [mem_suggested_iff] at suggested ⊢
  rw [← suggested]
  simp only [not_forall, Bool.not_eq_false, exists_prop, not_exists, not_and]

end Distinct

/-- **One hit for each format,** unless the extension suggests again what has been hit.  Hits by
signatures are never doubled. -/
theorem formats_distinct_iff (prepared : prepare version formats signatures = .ok library)
    (found : ∀ hit ∈ hits, library.Finds hit) (name : Option String) :
    (((Resolution.resolve library hits name).map Hit.format).Nodup ↔
      ¬∃ file ext, name = some file ∧ NamesExtension file ext ∧
        library.SuggestsAgain hits ext) ∧
    ((∀ hit ∈ hits, hit.isPositive = true) →
      ((Resolution.resolve library hits name).map Hit.format).Nodup) := by
  have sound := Prepared.of_prepare prepared
  have kept : ((Resolution.prune library (Resolution.deduplicate hits)).map Hit.format).Nodup :=
    (Resolution.deduplicate_merges sound hits found).distinct.sublist
      (List.filter_sublist.map Hit.format)
  have once : ((Resolution.resolve library hits name).map Hit.format).Nodup ↔
      ¬∃ file ext, name = some file ∧ NamesExtension file ext ∧
        library.SuggestsAgain hits ext := by
    rw [Resolution.resolve, sound.corroborate_distinct_iff kept]
    constructor
    · rintro apart ⟨file, ext, rfl, ends, again⟩
      exact (sound.not_suggestsAgain_iff found ext).mpr
        (apart ext ((fileExtension?_eq_some_iff file ext).mpr ends)) again
    · intro never ext ended
      obtain ⟨file, named, ends⟩ := Option.bind_eq_some_iff.mp ended
      exact (sound.not_suggestsAgain_iff found ext).mp fun again =>
        never ⟨file, ext, named, (fileExtension?_eq_some_iff file ext).mp ends, again⟩
  refine ⟨once, fun sure => once.mpr ?_⟩
  rintro ⟨file, ext, -, -, unsure, hit, member, tops, -⟩
  exact Bool.false_ne_true ((unsure hit member tops).symm.trans (sure hit member))

/-- The eight package hits leave books and drafts, each once, and so the extension suggests neither
again; and positive hits on all packages leave no format twice under any name. -/
theorem formats_distinct_iff_packages :
    ∃ library, prepare "1" packages packageSignatures = .ok library ∧
      (∀ hit ∈ packageHits, library.Finds hit) ∧
      (Resolution.resolve library packageHits (some "a.epub")).map Hit.format = [3, 4] ∧
      (¬∃ file ext, some "a.epub" = some file ∧ NamesExtension file ext ∧
        library.SuggestsAgain packageHits ext) ∧
      ∀ name, ((Resolution.resolve library (packageHits.filter Hit.isPositive) name).map
        Hit.format).Nodup := by
  have prepared : prepare "1" packages packageSignatures =
    .ok ⟨"1", packages, packageSignatures.map (prepareSignature packages)⟩ := by rfl
  have ext : fileExtension? "a.epub" = some "epub" := by decide +kernel
  have left : (Resolution.resolve
      ⟨"1", packages, packageSignatures.map (prepareSignature packages)⟩ packageHits
      (some "a.epub")).map Hit.format = [3, 4] := by
    rw [Resolution.resolve, Option.bind_some, ext]
    decide +kernel
  have once := (formats_distinct_iff prepared finds_packageHits (some "a.epub")).1
  have sure : ∀ hit ∈ packageHits.filter Hit.isPositive, hit ∈ packageHits ∧
      hit.isPositive = true := fun hit => List.mem_filter.mp
  refine ⟨_, prepared, finds_packageHits, left, once.mp (by rw [left]; decide), fun name => ?_⟩
  exact (formats_distinct_iff prepared (fun hit member => finds_packageHits hit (sure hit member).1)
    name).2 fun hit member => (sure hit member).2

/-- A format that only its extension tells. -/
def paper : FileFormat :=
  { id := 1, name := "paper", tag := .ofString "pdf", extensions := ["pdf"] }

/-- The suggestion of the paper is one of its library. -/
theorem finds_paper : ∀ hit ∈ [Hit.tentative paper], Finds ⟨"1", [paper], []⟩ hit := by
  intro hit member
  obtain rfl := List.mem_singleton.mp member
  exact .tentative (List.mem_singleton_self _)

/-- **A format listed twice:** the extension suggests what has been hit by it before. -/
theorem paper_listed_twice :
    ∃ library, prepare "1" [paper] [] = .ok library ∧
      (∀ hit ∈ [Hit.tentative paper], library.Finds hit) ∧
      (Resolution.resolve library [.tentative paper] (some "report.pdf")).map Hit.format =
        [1, 1] := by
  have ext : fileExtension? "report.pdf" = some "pdf" := by decide +kernel
  refine ⟨⟨"1", [paper], []⟩, by rfl, finds_paper, ?_⟩
  rw [Resolution.resolve, Option.bind_some, ext]
  decide +kernel

end Library

end Discern
