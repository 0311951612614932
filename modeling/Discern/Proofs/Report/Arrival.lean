import Discern.Proofs.Engine.ReadLimit
import Discern.Proofs.Files.PathOrder
import Discern.Proofs.Sorting
import Discern.Proofs.Success
import Discern.Report

/-!
# Reports in the order of their arrival

The files to identify are identified side by side, and their reports come in in any order.  They
are then put into the order of their paths.  Whatever the order in which they came in, the list
has one report for each file that a walk visits, with what came of that file alone, and its paths
are in order.

Reports whose paths have the same steps stand in the list as they came in.  So the list is the same
for every order of arrival if and only if no two of the paths have the same steps and are written
in different ways (`Engine.reports_settle`).
-/

namespace Discern

namespace Report

variable {α : Type} {identify : Path → Except Error α} {visited : List Path}
  {arrived other : List (Report α)} {r : Report α} {steps : List PathStep}

/-- The report on a file that is identified alone. -/
def alone (identify : Path → Except Error α) (path : Path) : Report α := ⟨path, identify path⟩

/-- **The reports on files that were visited,** in any order: one for each visit, with what came
of the file alone. -/
def Arrive (identify : Path → Except Error α) (visited : List Path)
    (arrived : List (Report α)) : Prop :=
  arrived.Perm (visited.map (alone identify))

/-- **Paths with the same steps are written in the same way.** -/
def SpelledAlike (visited : List Path) : Prop :=
  ∀ p ∈ visited, ∀ q ∈ visited, p.steps = q.steps → p = q

theorem before_trans (r s q : Report α) :
    r.path.le s.path = true → s.path.le q.path = true → r.path.le q.path = true :=
  Path.le_of_le_of_le

theorem before_total (r s : Report α) : (r.path.le s.path || s.path.le r.path) = true :=
  Path.le_or_le _ _

theorem sort_perm (reports : List (Report α)) : (sort reports).Perm reports :=
  List.mergeSort_perm _ _

/-- Sorted reports are in the order of their paths. -/
theorem sort_pairwise (reports : List (Report α)) :
    (sort reports).Pairwise fun r s => r.path.le s.path = true :=
  List.pairwise_mergeSort before_trans before_total reports

/-- Reports on paths with the same steps stay in the order in which they came in. -/
theorem filter_sort (steps : List PathStep) (reports : List (Report α)) :
    (sort reports).filter (·.path.steps = steps) = reports.filter (·.path.steps = steps) := by
  refine filter_mergeSort before_trans before_total ?_ reports
  intro r s first second
  exact Path.le_of_steps_eq ((of_decide_eq_true first).trans (of_decide_eq_true second).symm)

/-- Reports that are in order have the same paths at the same places, up to how these are
written. -/
theorem steps_of_perm (same : arrived.Perm other)
    (first : arrived.Pairwise fun r s => r.path.le s.path = true)
    (second : other.Pairwise fun r s => r.path.le s.path = true) :
    arrived.map (·.path.steps) = other.map (·.path.steps) := by
  have level : ∀ a b, a ∈ arrived.map (·.path.steps) → b ∈ other.map (·.path.steps) →
      Path.stepsLe a b = true → Path.stepsLe b a = true → a = b := by
    intro a b memberA memberB le ge
    obtain ⟨r, -, rfl⟩ := List.mem_map.mp memberA
    obtain ⟨s, -, rfl⟩ := List.mem_map.mp memberB
    exact Path.steps_eq_of_le_of_le le ge
  exact List.Perm.eq_of_pairwise level (List.pairwise_map.mpr first)
    (List.pairwise_map.mpr second) (same.map _)

namespace Arrive

theorem refl : Arrive identify visited (visited.map (alone identify)) :=
  List.Perm.refl _

/-- Sorted reports are one for each visit, as those that came in. -/
theorem sorted (arrives : Arrive identify visited arrived) :
    Arrive identify visited (sort arrived) :=
  (sort_perm arrived).trans arrives

/-- Each report has what came of its file alone. -/
theorem exists_of_mem (arrives : Arrive identify visited arrived) (member : r ∈ arrived) :
    ∃ path ∈ visited, r = alone identify path := by
  obtain ⟨path, known, rfl⟩ := List.mem_map.mp (arrives.mem_iff.mp member)
  exact ⟨path, known, rfl⟩

/-- The report on a file may be the first to come in. -/
theorem exists_first {path : Path} (known : path ∈ visited) :
    ∃ rest, Arrive identify visited (alone identify path :: rest) := by
  obtain ⟨before, behind, rfl⟩ := List.append_of_mem known
  exact ⟨(before ++ behind).map (alone identify), (List.perm_middle.map (alone identify)).symm⟩

end Arrive

/-- **What the order of arrival decides.**  `complete`, `inOrder` and `level` hold for every order
of arrival; `same_iff` says when the list itself is the same for all of them. -/
structure Settles (identify : Path → Except Error α) (visited : List Path)
    (reports : List (Report α)) : Prop where
  complete : ∀ arrived, Arrive identify visited arrived → Arrive identify visited (sort arrived)
  inOrder : ∀ arrived, Arrive identify visited arrived →
    (sort arrived).Pairwise fun r s => r.path.le s.path = true
  level : ∀ arrived, Arrive identify visited arrived →
    (sort arrived).map (·.path.steps) = reports.map (·.path.steps)
  same_iff : (∀ arrived, Arrive identify visited arrived → sort arrived = reports) ↔
    SpelledAlike visited

/-- The list is the same for every order of arrival only if paths with the same steps are written
alike: the report on either of two such paths may be the first to come in. -/
theorem spelledAlike_of_same {reports : List (Report α)}
    (same : ∀ arrived, Arrive identify visited arrived → sort arrived = reports) :
    SpelledAlike visited := by
  intro p known q knownToo steps
  obtain ⟨rest, first⟩ : ∃ rest, Arrive identify visited (alone identify p :: rest) :=
    Arrive.exists_first known
  obtain ⟨others, second⟩ : ∃ rest, Arrive identify visited (alone identify q :: rest) :=
    Arrive.exists_first knownToo
  have level := congrArg (List.filter fun r => decide (r.path.steps = q.steps))
    ((same _ first).trans (same _ second).symm)
  rw [filter_sort, filter_sort] at level
  simp only [alone, List.filter_cons, steps, decide_true, ↓reduceIte] at level
  exact congrArg path (List.cons.inj level).1

/-- If paths with the same steps are written alike, reports are sorted to the same list, whatever
the order in which they came in. -/
theorem same_of_spelledAlike (alike : SpelledAlike visited)
    (arrives : Arrive identify visited arrived) (arrivesToo : Arrive identify visited other) :
    sort arrived = sort other := by
  refine List.Perm.eq_of_pairwise ?_ (sort_pairwise arrived) (sort_pairwise other)
    (arrives.sorted.trans arrivesToo.sorted.symm)
  intro r s member memberToo le ge
  obtain ⟨p, known, rfl⟩ := arrives.sorted.exists_of_mem member
  obtain ⟨q, knownToo, rfl⟩ := arrivesToo.sorted.exists_of_mem memberToo
  rw [alike p known q knownToo (Path.steps_eq_of_le_of_le le ge)]

/-- One order of arrival tells what all of them come to. -/
theorem settles (arrivesToo : Arrive identify visited other) :
    Settles identify visited (sort other) where
  complete _ arrives := arrives.sorted
  inOrder arrived _ := sort_pairwise arrived
  level arrived arrives := steps_of_perm (arrives.sorted.trans arrivesToo.sorted.symm)
    (sort_pairwise arrived) (sort_pairwise other)
  same_iff := ⟨spelledAlike_of_same, fun alike _ arrives =>
    same_of_spelledAlike alike arrives arrivesToo⟩

end Report

namespace Engine

/-- **Reports and the order of their arrival.**  Whatever a walker comes upon, and whatever the
order in which the reports on the files of some paths come in, the list has one report for each
file and walk, with what came of that file alone, and is in the order of the paths.  It is the same
list for every order of arrival if and only if no two paths of files have the same steps and are
written in different ways. -/
theorem reports_settle (walker : Walker) (e : Engine) (t : FileTree) (paths : List Path) :
    Report.Settles (e.classifyPath t) (e.filesOf walker t paths) (e.classifyPaths walker t paths) ∧
      Report.Settles (e.layersOf t) (e.filesOf walker t paths) (e.detectPaths walker t paths) :=
  ⟨Report.settles .refl, Report.settles .refl⟩

/-- A tree with one file. -/
def oneFile : FileTree := ⟨[(["f"], [0x78])], []⟩

/-- The file and, with a slash behind it, a directory of its name. -/
def twoSpellings : List Path := [⟨"f"⟩, ⟨"f/"⟩]

/-- There is an engine for the default configuration, whatever the files are. -/
theorem exists_defaultEngine (t : FileTree) :
    ∃ e, make t .default = .ok e ∧ e.configuration = .default := by
  have valid : Configuration.default.validate = .ok () := by decide +kernel
  obtain ⟨exclusions, excluded, -⟩ := bind_eq_ok_iff.1 valid
  obtain ⟨library, loaded⟩ :=
    exists_eq_ok (x := LibraryDocument.builtIn.toLibrary) (by decide +kernel)
  obtain ⟨table, tabled⟩ := exists_eq_ok (x := RuleTable.builtIn) (by decide +kernel)
  have ofLibrary : Configuration.default.library t = .ok library := by
    change LibraryDocument.builtIn.toLibrary.mapError _ = _
    rw [loaded]
    rfl
  have ofTable : Configuration.default.table t = .ok table := by
    have unnamed : Configuration.default.modulesFile = none := rfl
    rw [Configuration.table, unnamed]
    dsimp only
    rw [tabled]
    rfl
  exact ⟨_, make_of_parts valid excluded ofLibrary ofTable, rfl⟩

/-- A slash at the end has an empty piece behind it. -/
theorem pieces_f_slash : (Path.mk "f/").pieces = ["f", ""] := by
  change (if ("/" == "") = true then ["f/"] else "f/".splitOnAux "/" 0 0 0 []) = _
  rw [if_neg (by decide), String.splitOnAux, if_neg (by decide), if_neg (by decide),
    String.splitOnAux, if_neg (by decide), if_pos (by decide)]
  dsimp only
  rw [if_pos (by decide), String.splitOnAux, if_pos (by decide)]
  decide

/-- The path of the file leads to it. -/
theorem locate_f : oneFile.locate ⟨"f"⟩ = .ok ["f"] := by
  rw [FileTree.locate, pieces_f]
  rfl

/-- With a slash behind it the path leads into no directory. -/
theorem locate_f_slash : oneFile.locate ⟨"f/"⟩ = .error .noDirectory := by
  rw [FileTree.locate, pieces_f_slash]
  rfl

/-- Neither path is one of a directory, so that there is nothing for a walker to find. -/
theorem filesOf_twoSpellings (e : Engine) (walker : Walker) :
    e.filesOf walker oneFile twoSpellings = twoSpellings := by
  have file : oneFile.isDirectory ⟨"f"⟩ = false := by
    rw [FileTree.isDirectory, FileTree.look, locate_f]
    rfl
  have absent : oneFile.isDirectory ⟨"f/"⟩ = false := by
    rw [FileTree.isDirectory, FileTree.look, locate_f_slash]
  rw [filesOf, twoSpellings, List.flatMap_cons, List.flatMap_singleton,
    FileTree.walk_of_not_directory file, FileTree.walk_of_not_directory absent]
  rfl

/-- The file is classified under its own path. -/
theorem classifyPath_f {e : Engine} (configured : e.configuration = .default) :
    (e.classifyPath oneFile ⟨"f"⟩).toOption.isSome = true := by
  have looked : oneFile.look ⟨"f"⟩ = .ok (.file [0x78]) := by
    rw [FileTree.look, locate_f]
    rfl
  have loaded : e.load oneFile ⟨"f"⟩ = .ok [0x78] := by
    rw [load, FileTree.loadContent, looked, configured]
    rfl
  rw [classifyPath, loaded]
  rfl

/-- Under the other path it cannot be read. -/
theorem classifyPath_f_slash (e : Engine) :
    e.classifyPath oneFile ⟨"f/"⟩ = .error (.fileRead ⟨"f/"⟩ .noDirectory) := by
  have looked : oneFile.look ⟨"f/"⟩ = .error .noDirectory := by
    rw [FileTree.look, locate_f_slash]
  rw [classifyPath, load, FileTree.loadContent, looked]
  rfl

/-- **The order of arrival shows.**  A file is named twice, once with a slash behind it, and can
be classified under the first of the names only.  The error stands before or behind the
classification, as the two reports came in. -/
theorem error_before_or_behind :
    ∃ e, make oneFile .default = .ok e ∧
      ∃ one other,
        Report.Arrive (e.classifyPath oneFile) (e.filesOf .heedful oneFile twoSpellings) one ∧
        Report.Arrive (e.classifyPath oneFile) (e.filesOf .heedful oneFile twoSpellings) other ∧
        (Report.sort one).map Report.isOk = [true, false] ∧
        (Report.sort other).map Report.isOk = [false, true] := by
  obtain ⟨e, made, configured⟩ := exists_defaultEngine oneFile
  obtain ⟨classification, identified⟩ := exists_eq_ok (classifyPath_f configured)
  have level : (Path.mk "f").steps = (Path.mk "f/").steps := by
    rw [Path.steps, pieces_f, Path.steps, pieces_f_slash]
    rfl
  let file : Report Classification := .alone (e.classifyPath oneFile) ⟨"f"⟩
  let directory : Report Classification := .alone (e.classifyPath oneFile) ⟨"f/"⟩
  have fileOk : file.isOk = true := by
    change Report.isOk ⟨_, e.classifyPath oneFile ⟨"f"⟩⟩ = true
    rw [identified]
    rfl
  have directoryFails : directory.isOk = false := by
    change Report.isOk ⟨_, e.classifyPath oneFile ⟨"f/"⟩⟩ = false
    rw [classifyPath_f_slash]
    rfl
  -- Either order is one of the paths already.
  have one : Report.sort [file, directory] = [file, directory] :=
    List.mergeSort_of_pairwise (List.pairwise_pair.mpr (Path.le_of_steps_eq level))
  have other : Report.sort [directory, file] = [directory, file] :=
    List.mergeSort_of_pairwise (List.pairwise_pair.mpr (Path.le_of_steps_eq level.symm))
  refine ⟨e, made, [file, directory], [directory, file], ?_, ?_, ?_, ?_⟩
  · rw [filesOf_twoSpellings]
    exact .refl
  · rw [filesOf_twoSpellings]
    exact .swap _ _ _
  · rw [one, List.map_cons, List.map_cons, fileOk, directoryFails, List.map_nil]
  · rw [other, List.map_cons, List.map_cons, fileOk, directoryFails, List.map_nil]

end Engine

end Discern
