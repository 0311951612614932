import Discern.Classification.Resolution
import Discern.Proofs.Library.Preparation
import Mathlib.Data.List.Induction
import Mathlib.Data.List.TakeWhile

/-!
# What resolving hits does

Every step of the resolution in closed form.  Merging leaves one hit for each format,
where the format was found first and specific if any of its findings is
(`Resolution.deduplicate_positive`); a hit is dropped exactly when the format of some
hit of the same list, dropped itself or not, has priority over it
(`Resolution.mem_prune_iff`); and a file has an extension exactly when its name ends
in a dot and a text without dots and separators (`fileExtension?_eq_some_iff`).
-/

namespace Discern

/-- A file name ends in a dot and this extension. -/
def NamesExtension (name ext : String) : Prop :=
  (∃ stem, name = stem ++ "." ++ ext) ∧ ext ≠ "" ∧
    ∀ c ∈ ext.toList, c ≠ '.' ∧ c ≠ '/' ∧ c ≠ '\\'

/-- Read from its end, a name shows its extension before the last dot. -/
private theorem takeWhile_reverse_append (stem ext : List Char) (dotless : '.' ∉ ext) :
    (stem ++ '.' :: ext).reverse.takeWhile (· ≠ '.') = ext.reverse := by
  have kept : ∀ c ∈ ext.reverse, decide (c ≠ '.') = true := by
    intro c member
    simp only [decide_eq_true_eq]
    rintro rfl
    exact dotless (List.mem_reverse.mp member)
  rw [List.reverse_append, List.reverse_cons, List.append_assoc, List.takeWhile_append_of_pos kept]
  simp

/-- What stands behind the last dot is the extension, unless it is empty or has a separator in
it. -/
theorem fileExtension?_append (stem ext : String) (dotless : '.' ∉ ext.toList) :
    fileExtension? (stem ++ "." ++ ext) =
      if ext.toList.isEmpty || ext.toList.any (fun c => c == '/' || c == '\\') then none
      else some ext := by
  have chars : (stem ++ "." ++ ext).toList = stem.toList ++ '.' :: ext.toList := by simp
  unfold fileExtension?
  simp only [chars, takeWhile_reverse_append _ _ dotless, List.length_reverse, List.length_append,
    List.length_cons, List.isEmpty_reverse, List.any_reverse, List.reverse_reverse,
    String.ofList_toList]
  rw [if_neg (by omega)]

/-- The extension of a name is what the specification says. -/
theorem fileExtension?_eq_some_iff (name ext : String) :
    fileExtension? name = some ext ↔ NamesExtension name ext := by
  have usable : ∀ ext : String,
      ¬(ext.toList.isEmpty || ext.toList.any (fun c => c == '/' || c == '\\')) = true ↔
        ext ≠ "" ∧ ∀ c ∈ ext.toList, c ≠ '/' ∧ c ≠ '\\' := by
    intro ext
    simp [List.isEmpty_iff]
  constructor
  · intro found
    by_cases dotted : '.' ∈ name.toList.reverse
    · obtain ⟨after, before, split, dotless⟩ := List.eq_append_cons_of_mem dotted
      have parts : name =
          String.ofList before.reverse ++ "." ++ String.ofList after.reverse := by
        apply String.toList_injective
        simpa using congrArg List.reverse split
      rw [parts, fileExtension?_append _ _ (by simpa using dotless)] at found
      split_ifs at found with unusable
      obtain rfl := Option.some.inj found
      obtain ⟨nonempty, plain⟩ := (usable _).mp unusable
      refine ⟨⟨_, parts⟩, nonempty, fun c member => ⟨?_, plain c member⟩⟩
      rintro rfl
      exact dotless (by simpa using member)
    · have whole : name.toList.reverse.takeWhile (· ≠ '.') = name.toList.reverse :=
        List.takeWhile_eq_self_iff.mpr fun c member => by
          simp only [decide_eq_true_eq]
          rintro rfl
          exact dotted member
      simp only [fileExtension?, whole, List.length_reverse, ↓reduceIte, reduceCtorEq] at found
  · rintro ⟨⟨stem, rfl⟩, nonempty, plain⟩
    rw [fileExtension?_append stem ext fun dot => (plain '.' dot).1 rfl, if_neg]
    exact (usable ext).mpr ⟨nonempty, fun c member => (plain c member).2⟩

/-- An element at the end is erased if it stands in the list already. -/
theorem eraseDups_concat {α : Type} [DecidableEq α] (xs : List α) (x : α) :
    (xs ++ [x]).eraseDups = if x ∈ xs then xs.eraseDups else xs.eraseDups ++ [x] := by
  rw [List.eraseDups_append, List.removeAll, List.filter_singleton]
  by_cases member : x ∈ xs <;> simp [member, List.eraseDups_cons]

/-- A positive hit on a format names it by its id. -/
@[simp]
theorem Hit.positive_format (format : FileFormat) (specific : Bool) :
    (Hit.positive format specific).format = format.id := rfl

/-- A positive hit is positive, by whatever signature. -/
theorem Hit.positive_isPositive (format : FileFormat) (specific : Bool) :
    (Hit.positive format specific).isPositive = true := by
  cases specific <;> rfl

namespace Resolution

/-- A known positive hit becomes specific with the first specific signature. -/
theorem upgrade_positive (format : FileFormat) (known new : Bool) :
    upgrade (.positive format known) (.positive format new) = .positive format (known || new) := by
  cases known <;> cases new <;> rfl

/-- A hit on a format that has one upgrades it and leaves the others. -/
theorem merge_positive_known (formats : List FileFormat) (specific : FileFormat → Bool)
    (format : FileFormat) (new : Bool) (known : format ∈ formats)
    (sameId : ∀ other ∈ formats, other.id = format.id → other = format) :
    merge (formats.map fun other => .positive other (specific other)) (.positive format new) =
      formats.map fun other =>
        .positive other (specific other || decide (other = format) && new) := by
  have present : (formats.map fun other => Hit.positive other (specific other)).any
      (·.format = format.id) = true :=
    List.any_eq_true.mpr ⟨_, List.mem_map_of_mem known, decide_eq_true rfl⟩
  rw [merge, Hit.positive_format, if_pos present, List.map_map]
  apply List.map_congr_left
  intro other member
  by_cases same : other.id = format.id
  · obtain rfl := sameId other member same
    simp [upgrade_positive]
  · have distinct : other ≠ format := fun equal => same (congrArg FileFormat.id equal)
    simp [same, distinct]

/-- A hit on a format that has none stands behind the others. -/
theorem merge_positive_new (formats : List FileFormat) (specific : FileFormat → Bool)
    (format : FileFormat) (new : Bool) (absent : ∀ other ∈ formats, other.id ≠ format.id) :
    merge (formats.map fun other => .positive other (specific other)) (.positive format new) =
      (formats.map fun other => .positive other (specific other)) ++ [.positive format new] := by
  have fresh : ¬(formats.map fun other => Hit.positive other (specific other)).any
      (·.format = (Hit.positive format new).format) = true := by
    rw [List.any_map, List.any_eq_true]
    rintro ⟨other, member, same⟩
    exact absent other member (of_decide_eq_true same)
  rw [merge, if_neg fresh]

/-- **One hit for each format,** where the format was found first, and specific if any
finding of it is.  The induction adds the findings at the end, as the fold does. -/
theorem deduplicate_positive (findings : List (FileFormat × Bool))
    (distinct : ∀ one ∈ findings, ∀ other ∈ findings, one.1.id = other.1.id → one.1 = other.1) :
    deduplicate (findings.map fun finding => .positive finding.1 finding.2) =
      (findings.map Prod.fst).eraseDups.map fun format =>
        .positive format (decide ((format, true) ∈ findings)) := by
  induction findings using List.reverseRecOn with
  | nil => rfl
  | append_singleton earlier new ih =>
      obtain ⟨format, specific⟩ := new
      have merged := ih fun one first other second =>
        distinct one (List.mem_append_left _ first) other (List.mem_append_left _ second)
      have sameId : ∀ known ∈ (earlier.map Prod.fst).eraseDups,
          known.id = format.id → known = format := by
        intro known member same
        obtain ⟨one, first, rfl⟩ := List.mem_map.mp (List.mem_eraseDups.mp member)
        exact distinct one (List.mem_append_left _ first) (format, specific) (by simp) same
      rw [deduplicate, List.map_append, List.foldl_append, ← deduplicate, merged, List.map_append]
      simp only [List.map_cons, List.map_nil, List.foldl_cons, List.foldl_nil, eraseDups_concat]
      by_cases again : format ∈ earlier.map Prod.fst
      · rw [merge_positive_known _ _ _ _ (List.mem_eraseDups.mpr again) sameId, if_pos again]
        apply List.map_congr_left
        intro other _
        simp [Bool.decide_or, eq_comm]
      · have unseen : ∀ flag, (format, flag) ∉ earlier := fun flag member =>
          again (List.mem_map_of_mem member)
        rw [merge_positive_new _ _ _ _ fun other member same =>
          again (sameId other member same ▸ List.mem_eraseDups.mp member), if_neg again,
          List.map_append]
        congr 1
        · apply List.map_congr_left
          intro other member
          have distinct : other ≠ format := by
            rintro rfl
            exact again (List.mem_eraseDups.mp member)
          simp [distinct]
        · simp [unseen]

/-- The dominated formats are those over which the format of some hit has priority. -/
theorem mem_dominated_iff (library : Library) (hits : List Hit) (id : UInt32) :
    id ∈ dominated library hits ↔
      ∃ hit ∈ hits, ∃ format, library.format? hit.format = some format ∧
        id ∈ format.hasPriorityOver := by
  simp only [dominated, List.mem_flatMap]
  refine exists_congr fun hit => and_congr_right fun _ => ?_
  cases library.format? hit.format with
  | none => simp
  | some format => simp

/-- Pruning drops the hits over whose format that of another hit has priority. -/
theorem mem_prune_iff (library : Library) (hits : List Hit) (hit : Hit) :
    hit ∈ prune library hits ↔
      hit ∈ hits ∧ ∀ other ∈ hits, ∀ format, library.format? other.format = some format →
        hit.format ∉ format.hasPriorityOver := by
  simp [prune, mem_dominated_iff]

end Resolution

end Discern
