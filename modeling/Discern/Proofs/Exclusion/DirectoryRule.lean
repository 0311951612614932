import Discern.Proofs.Exclusion.Pruning
import Discern.Proofs.Glob.Inside

/-!
# Rules of directories

A pattern with a `/` behind it is a rule of directories: it is to leave out the files in the
directories that the pattern accepts, and no others.  What it is compiled to is a glob for
everything inside and the pattern as a text, which tells the directory from a file of its name.

The rule leaves out the right files up to two exceptions.  It spares a file that is called as the
pattern is written.  And if the pattern ends in a `**`, the glob for everything inside is the
pattern itself, so that the rule leaves out whatever the pattern accepts, in a directory or not.
-/

namespace Discern

namespace Glob

/-- **A file in a directory that a glob accepts,** at any depth. -/
def Encloses (glob : Glob) (file : String) : Prop :=
  ∃ directory, RelativePath directory ∧ Below directory file ∧ glob.accepts directory = true

end Glob

/-- A relative path can be cut at every `/`: before it there is a directory, and the path lies
below. -/
theorem RelativePath.below_of_slash {file : String} (relative : RelativePath file)
    {directory rest : List Char} (cut : file.toList = directory ++ '/' :: rest) :
    RelativePath (String.ofList directory) ∧ Below (String.ofList directory) file := by
  induction relative generalizing rest with
  | @name name isName =>
      exact absurd (cut ▸ List.mem_append_right _ (.head _)) isName.2
  | @inside path name relative isName ih =>
      have cut : path.toList ++ '/' :: name.toList = directory ++ '/' :: rest := by
        simpa using cut
      have own : RelativePath (String.ofList path.toList) ∧
          Below (String.ofList path.toList) (path ++ "/" ++ name) := by
        rw [String.ofList_toList]
        exact ⟨relative, .child isName⟩
      rcases List.append_eq_append_iff.1 cut with
        ⟨behind, rfl, split⟩ | ⟨behind, split, tail⟩
      · -- a `/` behind the last one would be part of the name
        cases behind with
        | nil => rwa [List.append_nil]
        | cons c behind =>
            have inside : '/' ∈ name.toList := by
              rw [(List.cons.inj split).2]
              exact List.mem_append_right _ (.head _)
            exact absurd inside isName.2
      · cases behind with
        | nil =>
            rw [List.append_nil] at split
            rwa [split] at own
        | cons c behind =>
            cases (List.cons.inj tail).1
            obtain ⟨before, below⟩ := ih split
            exact ⟨before, below.deeper isName⟩

/-- A file is enclosed if what stands before one of its slashes matches. -/
theorem Glob.encloses_iff {glob : Glob} {file : String} (relative : RelativePath file) :
    glob.Encloses file ↔ ∃ directory rest, file.toList = directory ++ '/' :: rest ∧
      Glob.matchTokens glob.tokens directory = true := by
  constructor
  · rintro ⟨directory, -, below, accepted⟩
    obtain ⟨rest, cut, -⟩ := below.exists_rest
    exact ⟨_, rest, cut, accepted⟩
  · rintro ⟨directory, rest, cut, matched⟩
    obtain ⟨path, below⟩ := relative.below_of_slash cut
    exact ⟨_, path, below, by rwa [Glob.accepts, String.toList_ofList]⟩

namespace Exclusion

variable {pattern file : String} {rule : Exclusion}

/-- **How a rule of directories is compiled.** -/
theorem compile_directory (separated : '\\' ∉ pattern.toList)
    (ends : pattern.toList.getLast? ≠ some '/') :
    compile (pattern ++ "/") =
      (Glob.read pattern).map fun glob => ⟨glob.inside, some pattern, true⟩ := by
  have kept : pattern.toList.map (fun c => if c == '\\' then '/' else c) = pattern.toList := by
    refine (List.map_congr_left fun c mem => ?_).trans (List.map_id _)
    rw [beq_eq_false_iff_ne.2 (ne_of_mem_of_not_mem mem separated)]
    rfl
  have same : separators (pattern ++ "/") = pattern.toList ++ ['/'] := by
    rw [separators, String.toList_append, List.map_append, kept]
    rfl
  have whole : Glob.read (String.ofList (pattern.toList ++ ['/'] ++ ['*', '*'])) =
      (Glob.read pattern).map Glob.inside := by
    rw [List.append_assoc]
    exact Glob.read_inside ends
  rw [compile, same]
  rw [if_pos List.getLast?_concat, List.dropLast_concat, String.ofList_toList, whole]
  cases Glob.read pattern <;> rfl

/-- **Which files a rule of directories leaves out.** -/
theorem excludesFile_inside_iff (compiled : compile (pattern ++ "/") = .ok rule)
    (separated : '\\' ∉ pattern.toList) (ends : pattern.toList.getLast? ≠ some '/') :
    ∃ glob, Glob.read pattern = .ok glob ∧ ∀ file, RelativePath file →
      (rule.excludesFile file = true ↔
        file ≠ pattern ∧
          (glob.Encloses file ∨ ['*', '*'] <:+ pattern.toList ∧ glob.accepts file = true)) := by
  rw [compile_directory separated ends] at compiled
  cases read : Glob.read pattern with
  | error flaw => rw [read] at compiled; cases compiled
  | ok glob =>
      rw [read] at compiled
      cases compiled
      refine ⟨glob, rfl, fun file relative => ?_⟩
      have accepted : glob.inside.accepts file = true ↔
          glob.Encloses file ∨ ['*', '*'] <:+ pattern.toList ∧ glob.accepts file = true := by
        rw [Glob.encloses_iff relative, ← Glob.getLast?_read_iff ends read]
        exact Glob.matchTokens_insideTokens
      rw [excludesFile, Bool.and_eq_true, bne_iff_ne, and_comm, accepted]
      have spared : some pattern ≠ some file ↔ file ≠ pattern := by
        rw [ne_eq, Option.some_inj, eq_comm]
      exact and_congr_left fun _ => spared

/-- Whatever lies in `build`. -/
def insideBuild : Exclusion where
  glob := ⟨"build/".toList.map .char ++ [.components]⟩
  directory := some "build"
  recursive := true

/-- The rule for what is inside of `build`. -/
theorem excludesFile_inside_iff_build :
    compile ("build" ++ "/") = .ok insideBuild ∧ '\\' ∉ "build".toList ∧
    "build".toList.getLast? ≠ some '/' ∧
    ∃ glob, Glob.read "build" = .ok glob ∧ ∀ file, RelativePath file →
      (insideBuild.excludesFile file = true ↔
        file ≠ "build" ∧
          (glob.Encloses file ∨ ['*', '*'] <:+ "build".toList ∧ glob.accepts file = true)) := by
  have compiled : compile ("build" ++ "/") = .ok insideBuild := by decide +kernel
  have separated : '\\' ∉ "build".toList := by decide
  have ends : "build".toList.getLast? ≠ some '/' := by decide
  exact ⟨compiled, separated, ends, excludesFile_inside_iff compiled separated ends⟩

/-- A file is spared for its name even in a directory that the pattern accepts. -/
example : (Glob.read "*[!/]").map (·.accepts "*[!") = .ok true ∧
    (compile "*[!/]/").map (·.excludesFile "*[!/]") = .ok false := by decide +kernel

/-- A rule of all directories, of which the glob is that of everything. -/
def insideAnything : Exclusion where
  glob := ⟨[.components, .components]⟩
  directory := some "**"
  recursive := true

/-- The rule of all directories leaves out a file that lies in none. -/
theorem excludesFile_outside :
    compile ("**" ++ "/") = .ok insideAnything ∧ Glob.read "**" = .ok ⟨[.components]⟩ ∧
    RelativePath "x" ∧ insideAnything.excludesFile "x" = true ∧
    ¬ Glob.Encloses ⟨[.components]⟩ "x" := by
  have relative : RelativePath "x" := .name ⟨by decide, by decide⟩
  refine ⟨by decide +kernel, by decide +kernel, relative, by decide +kernel, ?_⟩
  rw [Glob.encloses_iff relative]
  rintro ⟨directory, rest, cut, -⟩
  have slash : '/' ∈ "x".toList := cut ▸ List.mem_append_right _ (.head _)
  exact absurd slash (by decide)

end Exclusion

end Discern
