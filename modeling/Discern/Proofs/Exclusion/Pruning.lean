import Discern.Exclusion
import Discern.Proofs.Glob.Below
import Discern.Proofs.Success

/-!
# Directories that a walk passes over

A walk passes over a directory that an exclusion prunes, and never asks about the files below
it.  An exclusion prunes a directory that its glob does not accept if the glob accepts one
invented name in it.  Nothing is lost by that exactly if the glob accepts every name there, and
the pattern of a directory rule is not itself the name of a file below.
-/

namespace Discern

/-- **A relative path:** names with a `/` between any two of them. -/
inductive RelativePath : String → Prop
  | name {name} : Name name.toList → RelativePath name
  | inside {directory name} : RelativePath directory → Name name.toList →
      RelativePath (directory ++ "/" ++ name)

/-- **The paths strictly below a directory.** -/
inductive Below (directory : String) : String → Prop
  | child {name} : Name name.toList → Below directory (directory ++ "/" ++ name)
  | deeper {path name} : Below directory path → Name name.toList →
      Below directory (path ++ "/" ++ name)

/-- A relative path is names with slashes between them. -/
theorem RelativePath.joined {path : String} (relative : RelativePath path) :
    Joined path.toList := by
  induction relative with
  | name isName => exact isName.joined
  | inside _ isName ih => simpa using ih.append isName.joined

/-- What stands in a path below a directory, behind the directory. -/
theorem Below.exists_rest {directory path : String} (below : Below directory path) :
    ∃ rest : List Char, path.toList = directory.toList ++ '/' :: rest ∧ Joined rest := by
  induction below with
  | child isName => exact ⟨_, by simp, isName.joined⟩
  | deeper _ isName ih =>
      obtain ⟨rest, split, joined⟩ := ih
      exact ⟨_, by simp [split], joined.append isName.joined⟩

namespace Exclusion

variable {pattern directory file : String} {rule : Exclusion}

/-- In a compiled rule every `**` is a component of its own. -/
theorem isChain_of_compile (compiled : compile pattern = .ok rule) :
    rule.glob.tokens.IsChain GlobToken.MayPrecede := by
  unfold compile at compiled
  dsimp only at compiled
  split at compiled
  · obtain ⟨glob, read, same⟩ := bind_eq_ok_iff.1 compiled
    cases same
    exact Glob.isChain_read read
  · obtain ⟨glob, read, same⟩ := bind_eq_ok_iff.1 compiled
    cases same
    exact Glob.isChain_read read

/-- The glob of a directory rule ends in a `**`. -/
theorem getLast?_of_compile {own : String} (compiled : compile pattern = .ok rule)
    (ofDirectory : rule.directory = some own) :
    rule.glob.tokens.getLast? = some .components := by
  unfold compile at compiled
  dsimp only at compiled
  split at compiled
  · rename_i slash
    obtain ⟨glob, read, same⟩ := bind_eq_ok_iff.1 compiled
    cases same
    obtain ⟨before, split⟩ := List.getLast?_eq_some_iff.1 slash
    refine Glob.getLast?_readFrom (.inr ⟨before, ?_⟩) read
    rw [String.toList_ofList, split, List.append_assoc]
    rfl
  · obtain ⟨glob, -, same⟩ := bind_eq_ok_iff.1 compiled
    cases same
    cases ofDirectory

/-- A relative path ends in no slash that could be dropped. -/
theorem dropSlashes_of_relative (relative : RelativePath directory) :
    dropSlashes directory = directory := by
  have final := relative.joined.final
  rw [← List.head?_reverse] at final
  have kept : directory.toList.reverse.dropWhile (· == '/') = directory.toList.reverse := by
    cases reversed : directory.toList.reverse with
    | nil => rfl
    | cons c before =>
        rw [reversed] at final
        exact List.dropWhile_cons_of_neg fun slash => final (congrArg some (beq_iff_eq.1 slash))
  rw [dropSlashes, kept, List.reverse_reverse, String.ofList_toList]

/-- A directory that the glob does not accept is pruned if the exclusion is recursive and its
glob accepts the invented name in the directory. -/
theorem prunesDirectory_of_unmatched (relative : RelativePath directory)
    (unmatched : rule.glob.accepts directory = false) :
    rule.prunesDirectory directory = true ↔
      rule.recursive = true ∧ rule.glob.accepts (directory ++ "/" ++ placeholder) = true := by
  have nonempty : directory.isEmpty = false := by
    rw [String.isEmpty_eq_false_iff]
    rintro rfl
    exact relative.joined.nonempty rfl
  simp [prunesDirectory, nonempty, unmatched, dropSlashes_of_relative relative]

/-- A rule that accepts every name in a directory accepts all that is below it. -/
theorem accepts_of_below (compiled : compile pattern = .ok rule)
    (names : ∀ name : String, Name name.toList →
      rule.glob.accepts (directory ++ "/" ++ name) = true)
    (below : Below directory file) : rule.glob.accepts file = true := by
  obtain ⟨rest, split, joined⟩ := below.exists_rest
  rw [Glob.accepts, split]
  refine Glob.accepts_below (isChain_of_compile compiled) (fun name isName => ?_) joined
  simpa [Glob.accepts] using names (String.ofList name) (by simpa using isName)

/-- **When it is right to pass over a directory.**  Every file below a pruned directory is
excluded, as it should be, if and only if a recursive rule that accepts the invented name there
accepts every other name as well, and the directory that the rule speaks of is not a path
below. -/
theorem pruning_excludes_iff (compiled : compile pattern = .ok rule)
    (relative : RelativePath directory) (unmatched : rule.glob.accepts directory = false) :
    (rule.prunesDirectory directory = true →
        ∀ file, Below directory file → rule.excludesFile file = true) ↔
      (rule.recursive = true → rule.glob.accepts (directory ++ "/" ++ placeholder) = true →
        (∀ name : String, Name name.toList →
          rule.glob.accepts (directory ++ "/" ++ name) = true) ∧
        ∀ own ∈ rule.directory, ¬ Below directory own) := by
  rw [prunesDirectory_of_unmatched relative unmatched, and_imp]
  refine forall_congr' fun _ => forall_congr' fun _ => ?_
  simp only [excludesFile, Bool.and_eq_true, bne_iff_ne]
  constructor
  · intro excluded
    exact ⟨fun name isName => (excluded _ (.child isName)).1,
      fun own is below => (excluded own below).2 is⟩
  · rintro ⟨names, other⟩ file below
    exact ⟨accepts_of_below compiled names below, fun is => other file is below⟩

/-- Whatever lies in `target`. -/
def insideTarget : Exclusion where
  glob := ⟨"target/".toList.map .char ++ [.components]⟩
  directory := none
  recursive := true

/-- The rule for all that is below `target`, which prunes it. -/
theorem pruning_excludes_iff_insideTarget :
    compile "target/**" = .ok insideTarget ∧ RelativePath "target" ∧
    insideTarget.glob.accepts "target" = false ∧
    ((insideTarget.prunesDirectory "target" = true →
        ∀ file, Below "target" file → insideTarget.excludesFile file = true) ↔
      (insideTarget.recursive = true →
        insideTarget.glob.accepts ("target" ++ "/" ++ placeholder) = true →
        (∀ name : String, Name name.toList →
          insideTarget.glob.accepts ("target" ++ "/" ++ name) = true) ∧
        ∀ own ∈ insideTarget.directory, ¬ Below "target" own)) := by
  have compiled : compile "target/**" = .ok insideTarget := by decide +kernel
  have relative : RelativePath "target" := .name ⟨by decide, by decide⟩
  have unmatched : insideTarget.glob.accepts "target" = false := by decide
  exact ⟨compiled, relative, unmatched, pruning_excludes_iff compiled relative unmatched⟩

/-- Whatever begins with an underscore, in any directory. -/
def underscored : Exclusion where
  glob := ⟨[.components, .char '_', .anyText]⟩
  directory := none
  recursive := true

/-- The invented name begins with an underscore, and what is called otherwise is lost. -/
theorem pruning_hides_readme :
    compile "**/_*" = .ok underscored ∧ RelativePath "docs" ∧
    underscored.glob.accepts "docs" = false ∧ Below "docs" "docs/readme" ∧
    underscored.prunesDirectory "docs" = true ∧
    underscored.excludesFile "docs/readme" = false := by
  have isName : Name "readme".toList := ⟨by decide, by decide⟩
  have below : Below "docs" ("docs" ++ "/" ++ "readme") := .child isName
  exact ⟨by decide +kernel, .name ⟨by decide, by decide⟩, by decide, below, by decide, by decide⟩

/-- A walk may pass over whatever a rule of directories prunes: below, it leaves out every file,
but one that is called as the rule is written. -/
theorem excludesFile_of_directory {own : String} (compiled : compile pattern = .ok rule)
    (ofDirectory : rule.directory = some own) (relative : RelativePath directory)
    (unmatched : rule.glob.accepts directory = false)
    (pruned : rule.prunesDirectory directory = true) (below : Below directory file)
    (other : file ≠ own) : rule.excludesFile file = true := by
  obtain ⟨-, accepted⟩ := (prunesDirectory_of_unmatched relative unmatched).1 pruned
  obtain ⟨front, split⟩ :=
    List.getLast?_eq_some_iff.1 (getLast?_of_compile compiled ofDirectory)
  obtain ⟨rest, behind, -⟩ := below.exists_rest
  have standing := isChain_of_compile compiled
  rw [split] at standing
  have isName : Name placeholder.toList := ⟨by decide, by decide⟩
  have covered : rule.glob.accepts file = true := by
    rw [Glob.accepts, behind, split]
    refine Glob.accepts_of_components standing isName ?_ rest
    simpa [Glob.accepts, split] using accepted
  rw [excludesFile, covered, Bool.true_and, bne_iff_ne, ofDirectory]
  exact fun same => other (Option.some.inj same).symm

end Exclusion

end Discern
