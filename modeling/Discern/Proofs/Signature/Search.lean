import Discern.Signature.Search
import Mathlib.Data.List.Basic

/-!
# Exactness of the search

A search answers `true` exactly when its steps can be placed one after the other
from its position on (`Search.place_spec`).  The dead ends that it carries along
never change that answer: a dead end stands for steps that have no placement
(`Search.Sound`), every search adds such dead ends only, and a later search may
therefore rely on them.
-/

namespace Discern

/-- **A fragment lies at a position of a content:** it does not reach over the end,
and every cell that is no wildcard agrees with the byte below it. -/
def Fragment.LiesAt (fragment : Fragment) (content : Bytes) (start : Nat) : Prop :=
  start + fragment.length ≤ content.length ∧
    ∀ (i : Nat) (byte : UInt8), fragment.cells[i]? = some (some byte) →
      content[start + i]? = some byte

/-- **Steps are placed from a position on:** each skips as many bytes as its gap
admits and finds its fragment there. -/
def Placed (content : Bytes) : List Step → Nat → Prop
  | [], _ => True
  | step :: rest, position =>
    ∃ skipped, step.gap.Admits skipped ∧ step.fragment.LiesAt content (position + skipped) ∧
      Placed content rest (position + skipped + step.fragment.length)

namespace Fragment

/-- A cell without a byte accepts any byte, and one with a byte that byte only. -/
private theorem cellAccepts_iff (cell : Option UInt8) (byte : UInt8) :
    cellAccepts cell byte = true ↔ ∀ expected, cell = some expected → byte = expected := by
  cases cell with
  | none => simp [cellAccepts]
  | some expected =>
      rw [cellAccepts, beq_iff_eq]
      exact ⟨fun same other asked => same ▸ Option.some.inj asked,
        fun agrees => (agrees _ rfl).symm⟩

/-- Comparing cell by cell succeeds exactly if every cell with a byte finds it at its place. -/
private theorem go_iff (content : Array UInt8) (cells : List (Option UInt8)) (start : Nat)
    (inside : start + cells.length ≤ content.size) :
    occursAt.go content cells start = true ↔
      ∀ (i : Nat) (byte : UInt8), cells[i]? = some (some byte) →
        content.toList[start + i]? = some byte := by
  induction cells generalizing start with
  | nil => simp [occursAt.go]
  | cons cell rest ih =>
      rw [List.length_cons] at inside
      have present : start < content.size := by omega
      rw [occursAt.go, Array.getElem?_eq_getElem present]
      simp only [Bool.and_eq_true, cellAccepts_iff, ih (start + 1) (by omega)]
      constructor
      · rintro ⟨here, later⟩ i byte asked
        cases i with
        | zero =>
            have agrees := here byte (by simpa using asked)
            simp [present, agrees]
        | succ i =>
            have agrees := later i byte (by simpa using asked)
            rwa [show start + (i + 1) = start + 1 + i by omega]
      · intro agrees
        refine ⟨fun expected asked => ?_, fun i byte asked => ?_⟩
        · have byteThere := agrees 0 expected (by simp [asked])
          simpa [present] using byteThere
        · have byteThere := agrees (i + 1) byte (by simpa using asked)
          rwa [show start + 1 + i = start + (i + 1) by omega]

/-- Inside the content, looking for a fragment finds out whether it lies there. -/
theorem occursAt_iff (fragment : Fragment) (content : Array UInt8) (start : Nat)
    (inside : start + fragment.length ≤ content.size) :
    fragment.occursAt content start = true ↔ fragment.LiesAt content.toList start := by
  rw [occursAt, go_iff content fragment.cells start inside, LiesAt, Array.length_toList]
  exact ⟨fun agrees => ⟨inside, agrees⟩, fun lies => lies.2⟩

end Fragment

namespace Search

/-- **Sound dead ends** of a search for some steps: from no remembered position can
the remembered number of last steps be placed. -/
def Sound (content : Bytes) (steps : List Step) (dead : DeadEnds) : Prop :=
  ∀ (remaining : List Step) (position : Nat), remaining <:+ steps →
    (remaining.length, position) ∈ dead → ¬ Placed content remaining position

/-- Where nothing is remembered nothing is remembered wrongly. -/
theorem Sound.empty (content : Bytes) (steps : List Step) : Sound content steps ∅ :=
  fun _ _ _ present => absurd present Std.HashSet.not_mem_empty

/-- A failed search may be remembered. -/
theorem Sound.insert {content : Bytes} {steps remaining : List Step} {position : Nat}
    {dead : DeadEnds} (sound : Sound content steps dead) (suffix : remaining <:+ steps)
    (failed : ¬ Placed content remaining position) :
    Sound content steps (dead.insert (remaining.length, position)) := by
  intro other place otherSuffix present
  rw [Std.HashSet.mem_insert] at present
  rcases present with same | before
  · obtain ⟨lengths, rfl⟩ := Prod.mk.inj (beq_iff_eq.mp same)
    -- Two last parts of one list with one length are the same part.
    obtain rfl : other = remaining :=
      (List.suffix_of_suffix_length_le otherSuffix suffix
        (Nat.le_of_eq lengths.symm)).eq_of_length lengths.symm
    exact failed
  · exact sound other place otherSuffix before

/-- The candidates of a step are the positions its gap admits, as far as its
fragment fits into the content. -/
theorem mem_candidates_iff {size position : Nat} {step : Step}
    (fits : step.fragment.length ≤ size) (start : Nat) :
    ((candidates size position step).2 ≤ start ∧
        start < (candidates size position step).2 + (candidates size position step).1) ↔
      ∃ skipped, step.gap.Admits skipped ∧ start = position + skipped ∧
        start + step.fragment.length ≤ size := by
  unfold candidates Gap.Admits
  cases bound : step.gap.max with
  | none =>
      simp only [reduceCtorEq, false_implies, implies_true, and_true]
      constructor
      · rintro ⟨low, high⟩
        exact ⟨start - position, by omega, by omega, by omega⟩
      · rintro ⟨skipped, low, rfl, inside⟩
        exact ⟨by omega, by omega⟩
  | some max =>
      simp only [Option.some.injEq, forall_eq', Nat.min_def]
      constructor
      · rintro ⟨low, high⟩
        refine ⟨start - position, ⟨by omega, ?_⟩, by omega, ?_⟩ <;> split at high <;> omega
      · rintro ⟨skipped, ⟨low, high⟩, rfl, inside⟩
        exact ⟨by omega, by split <;> omega⟩

/-- A step is placed at one of its candidates. -/
theorem placed_cons_iff {content : Array UInt8} {step : Step} {rest : List Step} {position : Nat}
    (fits : step.fragment.length ≤ content.size) :
    Placed content.toList (step :: rest) position ↔
      ∃ start, (candidates content.size position step).2 ≤ start ∧
        start < (candidates content.size position step).2 +
          (candidates content.size position step).1 ∧
        step.fragment.LiesAt content.toList start ∧
        Placed content.toList rest (start + step.fragment.length) := by
  constructor
  · rintro ⟨skipped, admits, lies, follows⟩
    have inside := lies.1
    rw [Array.length_toList] at inside
    obtain ⟨low, high⟩ := (mem_candidates_iff fits (position + skipped)).mpr
      ⟨skipped, admits, rfl, inside⟩
    exact ⟨position + skipped, low, high, lies, follows⟩
  · rintro ⟨start, low, high, lies, follows⟩
    obtain ⟨skipped, admits, rfl, -⟩ := (mem_candidates_iff fits _).mp ⟨low, high⟩
    exact ⟨skipped, admits, lies, follows⟩

/-- Trying positions in a row succeeds when one of them does, and keeps an invariant
of the dead ends that every attempt keeps. -/
theorem firstSuccess_spec (attempt : Nat → DeadEnds → Bool × DeadEnds) (succeeds : Nat → Prop)
    {invariant : DeadEnds → Prop} (count start : Nat) (dead : DeadEnds)
    (attempts : ∀ place known, start ≤ place → place < start + count → invariant known →
      ((attempt place known).1 = true ↔ succeeds place) ∧ invariant (attempt place known).2)
    (holds : invariant dead) :
    ((firstSuccess attempt count start dead).1 = true ↔
        ∃ place, start ≤ place ∧ place < start + count ∧ succeeds place) ∧
      invariant (firstSuccess attempt count start dead).2 := by
  induction count generalizing start dead with
  | zero =>
      refine ⟨⟨fun impossible => by simp [firstSuccess] at impossible, ?_⟩, holds⟩
      rintro ⟨place, low, high, -⟩
      omega
  | succ count ih =>
      obtain ⟨here, kept⟩ := attempts start dead (Nat.le_refl start) (by omega) holds
      rw [firstSuccess]
      rcases result : attempt start dead with ⟨answer, known⟩
      rw [result] at here kept
      cases answer with
      | true =>
          exact ⟨⟨fun _ => ⟨start, Nat.le_refl start, by omega, here.mp rfl⟩, fun _ => rfl⟩, kept⟩
      | false =>
          obtain ⟨later, keptLater⟩ := ih (start + 1) known
            (fun place known low high => attempts place known (by omega) (by omega)) kept
          refine ⟨later.trans ⟨?_, ?_⟩, keptLater⟩
          · rintro ⟨place, low, high, success⟩
            exact ⟨place, by omega, by omega, success⟩
          · rintro ⟨place, low, high, success⟩
            rcases Nat.eq_or_lt_of_le low with rfl | beyond
            · exact absurd (here.mpr success) Bool.false_ne_true
            · exact ⟨place, by omega, by omega, success⟩

/-- **Exactness of the search.**  With sound dead ends, it succeeds exactly when the
steps can be placed, and it leaves sound dead ends. -/
theorem place_spec (content : Array UInt8) (steps remaining : List Step)
    (suffix : remaining <:+ steps) (position : Nat) (dead : DeadEnds)
    (sound : Sound content.toList steps dead) :
    ((place content remaining position dead).1 = true ↔
        Placed content.toList remaining position) ∧
      Sound content.toList steps (place content remaining position dead).2 := by
  induction remaining generalizing position dead with
  | nil => exact ⟨by simp [place, Placed], sound⟩
  | cons step rest ih =>
      have restSuffix : rest <:+ steps := (List.suffix_cons step rest).trans suffix
      rw [place]
      split
      · rename_i known
        have failed := sound (step :: rest) position suffix (Std.HashSet.contains_iff_mem.mp known)
        exact ⟨⟨fun impossible => absurd impossible Bool.false_ne_true,
          fun placed => absurd placed failed⟩, sound⟩
      split
      · rename_i short
        have failed : ¬ Placed content.toList (step :: rest) position := by
          rintro ⟨skipped, -, ⟨inside, -⟩, -⟩
          rw [Array.length_toList] at inside
          omega
        exact ⟨⟨fun impossible => absurd impossible Bool.false_ne_true,
          fun placed => absurd placed failed⟩, sound.insert suffix failed⟩
      rename_i unknown fits
      rw [Nat.not_lt] at fits
      -- A position succeeds when the fragment lies there and the rest follows.
      obtain ⟨answers, kept⟩ := firstSuccess_spec
        (fun start dead =>
          if step.fragment.occursAt content start then
            place content rest (start + step.fragment.length) dead
          else (false, dead))
        (fun start => step.fragment.LiesAt content.toList start ∧
          Placed content.toList rest (start + step.fragment.length))
        (candidates content.size position step).1 (candidates content.size position step).2 dead
        (fun start known low high holds => by
          obtain ⟨skipped, -, -, inside⟩ := (mem_candidates_iff fits _).mp ⟨low, high⟩
          have found := step.fragment.occursAt_iff content start inside
          by_cases occurs : step.fragment.occursAt content start = true
          · simp only [occurs, ↓reduceIte, found.mp occurs, true_and]
            exact ih restSuffix _ known holds
          · simp only [occurs, Bool.false_eq_true, ↓reduceIte, false_iff, not_and]
            exact ⟨fun lies => absurd (found.mpr lies) occurs, holds⟩)
        sound
      rw [← placed_cons_iff fits] at answers
      dsimp only
      split
      · rename_i result
        rw [result] at answers kept
        exact ⟨answers, kept⟩
      · rename_i result
        rw [result] at answers kept
        exact ⟨answers, kept.insert suffix fun placed => by simpa using answers.mpr placed⟩

end Search

end Discern
