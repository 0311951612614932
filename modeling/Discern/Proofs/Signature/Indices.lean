import Discern.Proofs.Library.Structure
import Discern.Proofs.Signature.Placement
import Discern.Proofs.Success
import Discern.Signature.Indexed

/-!
# Indices of matching

Flattening a well-formed sequence and searching a content for it by indices never ends with an
index outside of what it points into, nor with a sum or a difference that is no word, and comes to
what the functions on lists come to.

* In a sub-sequence there is a gap in front of each fragment but the first.
* A search stands at most as far into the content as it is long, and has placed at most as many
  steps as it has passed bytes, because no fragment is empty.  The fragments that it tries end
  within the content, so no bound of a gap, however wide, leads out of it.
-/

namespace Discern

namespace SubSequence.WellFormed

variable {sub : SubSequence} (wellFormed : sub.WellFormed)
include wellFormed

theorem stepsForward_ne_nil : sub.stepsForward ≠ [] :=
  List.ne_nil_of_length_pos <|
    wellFormed.length_stepsForward ▸ List.length_pos_of_ne_nil wellFormed.nonempty

theorem stepsBackward_ne_nil : sub.stepsBackward ≠ [] :=
  List.ne_nil_of_length_pos <|
    wellFormed.length_stepsBackward ▸ List.length_pos_of_ne_nil wellFormed.nonempty

end SubSequence.WellFormed

namespace Indexed

theorem pick_eq_ok {α : Type} {xs : List α} {i : Nat} {x : α} (there : xs[i]? = some x) :
    pick xs i = .ok x := by
  rw [pick, there]

theorem plus_eq_ok {a b : Nat} (small : a + b < UInt64.size) : plus a b = .ok (a + b) :=
  if_pos small

theorem minus_eq_ok {a b : Nat} (le : b ≤ a) : minus a b = .ok (a - b) := if_pos le

/-! ## Steps -/

/-- There is a gap in front of each fragment. -/
theorem gapBefore_eq {sub : SubSequence} (wellFormed : sub.WellFormed) {j : Nat}
    (inside : j < sub.fragments.length) :
    ∃ gap, (sub.offset :: sub.gaps)[j]? = some gap ∧ gapBefore sub j = .ok gap := by
  have aligned := wellFormed.aligned
  cases j with
  | zero => exact ⟨sub.offset, rfl, rfl⟩
  | succ j =>
      have there := List.getElem?_eq_getElem (by omega : j < sub.gaps.length)
      refine ⟨_, there, ?_⟩
      rw [gapBefore, if_neg (Nat.succ_ne_zero j), minus_eq_ok (Nat.le_add_left 1 j),
        Nat.add_sub_cancel]
      exact pick_eq_ok there

/-- Counted from the last fragment, there is a gap behind each of them. -/
theorem gapBehind_eq {sub : SubSequence} (wellFormed : sub.WellFormed) {k : Nat}
    (inside : k < sub.fragments.length) :
    ∃ gap, (sub.offset :: sub.gaps.reverse)[k]? = some gap ∧
      gapBehind sub (sub.fragments.length - 1) (sub.fragments.length - 1 - k) = .ok gap := by
  have aligned := wellFormed.aligned
  cases k with
  | zero => exact ⟨sub.offset, rfl, if_pos rfl⟩
  | succ k =>
      have low : k < sub.gaps.length := by omega
      have turned : sub.gaps.reverse[k]? = sub.gaps[sub.fragments.length - 1 - (k + 1)]? := by
        rw [List.getElem?_reverse low]
        congr 1
        omega
      have there := List.getElem?_eq_getElem
        (by omega : sub.fragments.length - 1 - (k + 1) < sub.gaps.length)
      refine ⟨_, turned.trans there, ?_⟩
      rw [gapBehind, if_neg (by omega)]
      exact pick_eq_ok there

section Steps

variable (anchored : Gap → Gap) {sub : SubSequence} {i : Nat}

/-- The steps of the sub-sequence `i`: next to the anchor the first gap is another one. -/
def anchorHead (i : Nat) (steps : List Step) : List Step :=
  if i = 0 then steps.modifyHead fun step => { step with gap := anchored step.gap } else steps

theorem length_anchorHead (steps : List Step) :
    (anchorHead anchored i steps).length = steps.length := by
  unfold anchorHead
  split
  · exact List.length_modifyHead
  · rfl

/-- Only the very first gap of a sequence is another one next to the anchor. -/
theorem getElem?_anchorHead {gaps : List Gap} {fragments : List Fragment} {k : Nat} {gap : Gap}
    {fragment : Fragment} (before : gaps[k]? = some gap) (there : fragments[k]? = some fragment) :
    (anchorHead anchored i (List.zipWith Step.mk gaps fragments))[k]? =
      some ⟨if i = 0 ∧ k = 0 then anchored gap else gap, fragment⟩ := by
  have step : (List.zipWith Step.mk gaps fragments)[k]? = some ⟨gap, fragment⟩ := by
    rw [List.getElem?_zipWith, before, there]
  generalize List.zipWith Step.mk gaps fragments = steps at step
  unfold anchorHead
  by_cases near : i = 0
  · cases steps with
    | nil => cases step
    | cons first rest =>
        cases k with
        | zero =>
            cases step
            simp only [near, ↓reduceIte, and_self]
            rfl
        | succ k =>
            rw [if_pos near, if_neg fun first => Nat.succ_ne_zero k first.2]
            exact step
  · rw [if_neg near, if_neg fun first => near first.1]
    exact step

/-- The steps of a well-formed sub-sequence are made forwards without a fault. -/
theorem stepsForward_eq (wellFormed : sub.WellFormed) :
    stepsForward anchored sub i = .ok (anchorHead anchored i sub.stepsForward) := by
  refine mapM_eq_ok ?_ fun k (fragment, j) there => ?_
  · rw [length_anchorHead, wellFormed.length_stepsForward, List.length_zipIdx]
  rw [List.getElem?_zipIdx, Option.map_eq_some_iff] at there
  obtain ⟨_, there, same⟩ := there
  cases same
  rw [Nat.zero_add]
  obtain ⟨gap, before, picked⟩ := gapBefore_eq wellFormed (List.getElem?_eq_some_iff.mp there).1
  refine ⟨_, getElem?_anchorHead anchored before there, ?_⟩
  dsimp only
  rw [picked]
  rfl

/-- The steps of a well-formed sub-sequence are made backwards without a fault. -/
theorem stepsBackward_eq (wellFormed : sub.WellFormed) :
    stepsBackward anchored sub i = .ok (anchorHead anchored i sub.stepsBackward) := by
  have present : 1 ≤ sub.fragments.length := List.length_pos_of_ne_nil wellFormed.nonempty
  rw [stepsBackward, minus_eq_ok present]
  change List.mapM _ _ = _
  refine mapM_eq_ok ?_ fun k j there => ?_
  · rw [length_anchorHead, wellFormed.length_stepsBackward, List.length_reverse, List.length_range]
  have low : k < sub.fragments.length := by
    simpa using (List.getElem?_eq_some_iff.mp there).1
  rw [List.getElem?_reverse (by simpa using low), List.length_range,
    List.getElem?_range (by omega)] at there
  obtain rfl := Option.some.inj there
  obtain ⟨gap, behind, picked⟩ := gapBehind_eq wellFormed low
  have inside : sub.fragments.length - 1 - k < sub.fragments.length := by omega
  obtain ⟨fragment, found⟩ : ∃ fragment, sub.fragments[sub.fragments.length - 1 - k]? =
      some fragment := ⟨_, List.getElem?_eq_getElem inside⟩
  have turned : (sub.fragments.reverse.map Fragment.reverse)[k]? = some fragment.reverse := by
    rw [List.getElem?_map, List.getElem?_reverse low, found]
    rfl
  have last : sub.fragments.length - 1 - k = sub.fragments.length - 1 ↔ k = 0 := by omega
  refine ⟨_, getElem?_anchorHead anchored behind turned, ?_⟩
  simp only [picked, pick_eq_ok found, last]
  rfl

variable {steps : SubSequence → List Step} {subs : List SubSequence}

/-- The sub-sequences behind the one next to the anchor keep their steps. -/
theorem map_anchorHead_behind :
    ((subs.zipIdx 1).map fun (sub, i) => anchorHead anchored i (steps sub)) = subs.map steps :=
  calc ((subs.zipIdx 1).map fun (sub, i) => anchorHead anchored i (steps sub))
      = (subs.zipIdx 1).map fun member => steps member.1 := by
        refine List.map_congr_left fun (sub, i) listed => if_neg ?_
        exact Nat.ne_of_gt (List.le_snd_of_mem_zipIdx listed)
    _ = ((subs.zipIdx 1).map Prod.fst).map steps := by rw [List.map_map]; rfl
    _ = subs.map steps := by rw [List.zipIdx_map_fst]

/-- A row of sub-sequences gives all their steps, of which the first is next to the anchor. -/
theorem mapM_zipIdx_flatten {row : SubSequence → Nat → Except IndexFault (List Step)}
    (rows : ∀ sub ∈ subs, ∀ i, row sub i = .ok (anchorHead anchored i (steps sub)))
    (present : ∀ sub ∈ subs, steps sub ≠ []) :
    (subs.zipIdx.mapM fun (sub, i) => row sub i).map List.flatten =
      .ok ((subs.flatMap steps).modifyHead fun step => { step with gap := anchored step.gap }) := by
  have all : (subs.zipIdx.mapM fun (sub, i) => row sub i) =
      .ok (subs.zipIdx.map fun (sub, i) => anchorHead anchored i (steps sub)) := by
    refine mapM_eq_ok (List.length_map _) fun k (sub, i) there => ⟨_, ?_, rows sub ?_ i⟩
    · rw [List.getElem?_map, there]
      rfl
    · exact List.fst_mem_of_mem_zipIdx (List.mem_of_getElem? there)
  rw [all]
  refine congrArg Except.ok ?_
  cases subs with
  | nil => rfl
  | cons sub rest =>
      obtain ⟨first, others, shape⟩ := List.exists_cons_of_ne_nil (present sub List.mem_cons_self)
      rw [List.zipIdx_cons, List.map_cons, Nat.zero_add, map_anchorHead_behind, List.flatMap_cons]
      change anchorHead anchored 0 (steps sub) ++ _ = _
      rw [shape]
      rfl

end Steps

/-- **Flattening by indices** comes to the steps of a well-formed sequence. -/
theorem flatten_eq {sequence : ByteSequence} (wellFormed : sequence.WellFormed) :
    flatten sequence = .ok sequence.flatten := by
  have sound : ∀ sub ∈ sequence.subSequences.reverse, sub.WellFormed :=
    fun sub listed => wellFormed.sound sub (List.mem_reverse.mp listed)
  rw [ByteSequence.flatten, ByteSequence.chain, flatten]
  cases sequence.anchor with
  | eof =>
      refine mapM_zipIdx_flatten sequence.anchoredGap ?_ ?_
      · exact fun sub listed _ => stepsBackward_eq _ (sound sub listed)
      · exact fun sub listed => (sound sub listed).stepsBackward_ne_nil
  | bof | «variable» =>
      refine mapM_zipIdx_flatten sequence.anchoredGap ?_ ?_
      · exact fun sub listed _ => stepsForward_eq _ (wellFormed.sound sub listed)
      · exact fun sub listed => (wellFormed.sound sub listed).stepsForward_ne_nil

/-! ## Searching -/

namespace Haystack

/-- A content as the steps see it. -/
def seen : Haystack → Array UInt8
  | forward content => content.toArray
  | backward content => content.reverse.toArray

/-- The steps see as many bytes as the content has. -/
theorem size_seen (hay : Haystack) : hay.seen.size = hay.length := by
  cases hay with
  | forward content => exact List.size_toArray
  | backward content => exact (List.size_toArray).trans List.length_reverse

/-- A byte inside the content is the one that the steps see there. -/
theorem byte_eq_ok {hay : Haystack} {i : Nat} (inside : i < hay.seen.size) :
    hay.byte i = .ok hay.seen[i] := by
  have there := Array.getElem?_eq_getElem inside
  generalize hay.seen[i] = found at there
  rw [size_seen] at inside
  cases hay with
  | forward content => exact pick_eq_ok (by simpa [seen] using there)
  | backward content =>
      have low : i < content.length := inside
      rw [seen, List.getElem?_toArray, List.getElem?_reverse low] at there
      rw [byte, minus_eq_ok (by omega)]
      change (minus (content.length - 1) i).bind _ = _
      rw [minus_eq_ok (by omega)]
      exact pick_eq_ok there

end Haystack

variable {hay : Haystack}

/-- Cells that end within the content look at bytes of the content. -/
theorem cellsAccept_eq (short : hay.length ≤ addressable) {cells : List (Option UInt8)}
    {start i : Nat} (inside : start + i + cells.length ≤ hay.seen.size) :
    cellsAccept hay start cells i = .ok (Fragment.occursAt.go hay.seen cells (start + i)) := by
  have room : addressable < UInt64.size := by decide
  have size := hay.size_seen
  induction cells generalizing i with
  | nil => rfl
  | cons cell rest ih =>
      rw [List.length_cons] at inside
      have low : start + i < hay.seen.size := by omega
      have later := ih (i := i + 1) (by omega)
      rw [Fragment.occursAt.go, Array.getElem?_eq_getElem low]
      cases cell with
      | none => exact later
      | some expected =>
          rw [cellsAccept, plus_eq_ok (by omega)]
          change (hay.byte (start + i)).bind _ = _
          rw [Haystack.byte_eq_ok low]
          change (if hay.seen[start + i] = expected then _ else _) = _
          dsimp only [Fragment.cellAccepts]
          by_cases agrees : hay.seen[start + i] = expected
          · rw [if_pos agrees, agrees, beq_self_eq_true, Bool.true_and]
            exact later
          · rw [if_neg agrees, beq_false_of_ne (Ne.symm agrees), Bool.false_and]
            rfl

/-- The farthest start is as far as the bound reaches, or the greatest word. -/
theorem reach_eq (position : Nat) (bound : UInt64) :
    reach position bound = min (position + bound.toNat) (UInt64.size - 1) :=
  Word.toNat_saturate _

/-- That the sums stop at the greatest word makes no difference: beyond a content there is no
position to try. -/
theorem candidates_eq_or {size : Nat} (short : size ≤ addressable) (position : Nat) (step : Step) :
    candidates size position step = Search.candidates size position step ∨
      (candidates size position step).1 = 0 ∧ (Search.candidates size position step).1 = 0 := by
  have room : addressable < UInt64.size - 1 := by decide
  unfold candidates Search.candidates
  cases step.gap.max with
  | none =>
      simp only [reach_eq, Prod.mk.injEq]
      omega
  | some max =>
      simp only [reach_eq, Prod.mk.injEq]
      change (min _ _ + 1 - _ = min _ _ + 1 - _ ∧ _) ∨ _ ∧ min _ _ + 1 - _ = 0
      omega

/-- If no try in the range raises a fault, the tries come to what they come to unchecked. -/
theorem firstSuccess_eq {attempt : Nat → DeadEnds → Except IndexFault (Bool × DeadEnds)}
    {other : Nat → DeadEnds → Bool × DeadEnds} {count start : Nat}
    (agree : ∀ place dead, start ≤ place → place < start + count →
      attempt place dead = .ok (other place dead)) (dead : DeadEnds) :
    firstSuccess attempt count start dead = .ok (Search.firstSuccess other count start dead) := by
  induction count generalizing start dead with
  | zero => rfl
  | succ count ih =>
      rw [firstSuccess, agree start dead (Nat.le_refl start) (by omega), Search.firstSuccess]
      generalize other start dead = found
      obtain ⟨answer, known⟩ := found
      cases answer with
      | true => rfl
      | false => exact ih (fun place dead low high => agree place dead (by omega) (by omega)) known

/-- A fragment that ends within the content is tried by indices of the content, and what follows
stands farther into the content than it has steps before it. -/
theorem attempt_eq (short : hay.length ≤ addressable) {fragment : Fragment}
    (solid : 0 < fragment.length) {index start : Nat} (passed : index ≤ start)
    (inside : start + fragment.length ≤ hay.length)
    {follow : (index position : Nat) → DeadEnds → Except IndexFault (Bool × DeadEnds)}
    {other : Nat → DeadEnds → Bool × DeadEnds}
    (agree : ∀ index position dead, index ≤ position → position ≤ hay.length →
      follow index position dead = .ok (other position dead)) (dead : DeadEnds) :
    attempt hay fragment index follow start dead =
      .ok (if fragment.occursAt hay.seen start then other (start + fragment.length) dead
        else (false, dead)) := by
  have room : addressable < UInt64.size - 1 := by decide
  have looked : occursAt hay fragment start = .ok (fragment.occursAt hay.seen start) :=
    cellsAccept_eq short (hay.size_seen ▸ inside)
  rw [attempt, looked]
  cases fragment.occursAt hay.seen start with
  | false => rfl
  | true =>
      change (plus index 1).bind _ = _
      rw [plus_eq_ok (by omega)]
      change (plus start fragment.length).bind _ = _
      rw [plus_eq_ok (by omega)]
      exact agree (index + 1) (start + fragment.length) dead (by omega) inside

/-- **Searching by indices** comes to what the search on lists comes to. -/
theorem place_eq (short : hay.length ≤ addressable) {remaining : List Step}
    (solid : ∀ step ∈ remaining, 0 < step.fragment.length) (index position : Nat)
    (dead : DeadEnds) (passed : index ≤ position) (inside : position ≤ hay.length) :
    place hay remaining index position dead =
      .ok (Search.place hay.seen remaining position dead) := by
  induction remaining generalizing index position dead with
  | nil => rfl
  | cons step rest ih =>
      have size := hay.size_seen
      have agree := ih fun step member => solid step (List.mem_cons_of_mem _ member)
      rw [place, Search.place, size]
      split_ifs with known tooLong
      · rfl
      · rfl
      rw [Nat.not_lt] at tooLong
      have searched : firstSuccess (attempt hay step.fragment index (place hay rest))
          (candidates hay.length position step).1 (candidates hay.length position step).2 dead =
          .ok (Search.firstSuccess (fun start dead =>
            if step.fragment.occursAt hay.seen start then
              Search.place hay.seen rest (start + step.fragment.length) dead
            else (false, dead)) (Search.candidates hay.length position step).1
              (Search.candidates hay.length position step).2 dead) := by
        rcases candidates_eq_or short position step with same | ⟨none, noneToo⟩
        · rw [same]
          refine firstSuccess_eq (fun start known low high => ?_) dead
          obtain ⟨skipped, -, rfl, fits⟩ :=
            (Search.mem_candidates_iff tooLong start).mp ⟨low, high⟩
          exact attempt_eq short (solid step List.mem_cons_self) (by omega) fits agree known
        · rw [none, noneToo]
          rfl
      refine (congrArg (fun found => Except.bind found _) searched).trans ?_
      dsimp only [Except.bind]
      generalize Search.firstSuccess _ _ _ dead = found
      obtain ⟨answer, known⟩ := found
      cases answer <;> rfl

end Indexed

/-! ## Prepared sequences -/

/-- The fragments of steps in a row are those that they were made of. -/
theorem fragment_mem_of_mem_zipWith {gaps : List Gap} {fragments : List Fragment} {step : Step}
    (member : step ∈ List.zipWith Step.mk gaps fragments) : step.fragment ∈ fragments := by
  obtain ⟨k, there⟩ := List.mem_iff_getElem?.mp member
  obtain ⟨gap, fragment, -, found, rfl⟩ := List.getElem?_zipWith_eq_some.mp there
  exact List.mem_of_getElem? found

namespace ByteSequence

variable {sequence : ByteSequence}

/-- No step of a well-formed sequence looks for an empty fragment. -/
theorem WellFormed.length_pos_of_mem_chain (wellFormed : sequence.WellFormed) {step : Step}
    (member : step ∈ sequence.chain) : 0 < step.fragment.length := by
  have solid : ∀ sub ∈ sequence.subSequences, ∀ fragment ∈ sub.fragments, 0 < fragment.length :=
    fun sub listed fragment inside =>
      List.length_pos_of_ne_nil ((wellFormed.sound sub listed).solid fragment inside)
  unfold chain at member
  split at member
  · obtain ⟨sub, listed, member⟩ := List.mem_flatMap.mp member
    obtain ⟨fragment, inside, same⟩ := List.mem_map.mp (fragment_mem_of_mem_zipWith member)
    rw [← same, Fragment.length_reverse]
    exact solid sub (List.mem_reverse.mp listed) fragment (List.mem_reverse.mp inside)
  · obtain ⟨sub, listed, member⟩ := List.mem_flatMap.mp member
    exact solid sub listed step.fragment (fragment_mem_of_mem_zipWith member)

/-- No step that is searched for looks for an empty fragment. -/
theorem WellFormed.length_pos_of_mem_flatten (wellFormed : sequence.WellFormed) {step : Step}
    (member : step ∈ sequence.flatten) : 0 < step.fragment.length := by
  have solid : ∀ step ∈ sequence.chain, 0 < step.fragment.length :=
    fun _ => wellFormed.length_pos_of_mem_chain
  unfold flatten at member
  cases shape : sequence.chain with
  | nil => simp [shape] at member
  | cons first rest =>
      rw [shape] at member solid
      rcases List.mem_cons.mp member with rfl | later
      · exact solid first List.mem_cons_self
      · exact solid step (List.mem_cons_of_mem first later)

/-- The steps see a content from the end that the sequence is anchored at. -/
theorem seen_haystack (sequence : ByteSequence) (content : Bytes) :
    (Indexed.haystack sequence content).seen = sequence.view content := by
  unfold Indexed.haystack view
  cases sequence.anchor <;> rfl

theorem length_haystack (sequence : ByteSequence) (content : Bytes) :
    (Indexed.haystack sequence content).length = content.length := by
  unfold Indexed.haystack
  cases sequence.anchor <;> rfl

end ByteSequence

/-- **Looking for a sequence by indices** comes to whether a content holds it. -/
theorem Indexed.occursIn_eq {sequence : ByteSequence} {content : Bytes}
    (solid : ∀ step ∈ sequence.steps, 0 < step.fragment.length)
    (short : content.length ≤ addressable) :
    occursIn sequence content = .ok (sequence.occursIn content) := by
  have searched := place_eq (sequence.length_haystack content ▸ short) solid 0 0 ∅
    (Nat.le_refl 0) (Nat.zero_le _)
  rw [sequence.seen_haystack] at searched
  rw [occursIn, ByteSequence.occursIn, searched]
  cases sequence.steps.isEmpty <;> rfl

/-- **No index leads outside.**  Every sequence without a flaw can be flattened with indices that
are inside its lists, and every sequence of a prepared library can be looked for in every content
in memory, with indices that are inside the content and sums and differences that are words.  What
is found is what the functions on lists find. -/
theorem Library.indices_inside :
    (∀ sequence : ByteSequence, sequence.flaw? = none →
      Indexed.flatten sequence = .ok sequence.flatten) ∧
    ∀ (version : String) (formats : List FileFormat) (signatures : List Signature)
      (library : Library), prepare version formats signatures = .ok library →
      ∀ signature ∈ library.signatures, ∀ sequence ∈ signature.sequences, ∀ content : Bytes,
        content.length ≤ addressable →
          Indexed.occursIn sequence content = .ok (sequence.occursIn content) := by
  constructor
  · intro sequence flawless
    exact Indexed.flatten_eq (sequence.flaw?_eq_none_iff_wellFormed.mp flawless)
  · intro version formats signatures library prepared signature known sequence listed content short
    obtain ⟨declared, flawless, rfl⟩ :=
      (Prepared.of_prepare prepared).flawless signature known sequence listed
    have wellFormed := declared.flaw?_eq_none_iff_wellFormed.mp flawless
    exact Indexed.occursIn_eq (fun _ => wellFormed.length_pos_of_mem_flatten) short

/-- A byte and, anywhere behind it, a pair of bytes that does not end a content. -/
def ByteSequence.wide (offset : UInt64) : ByteSequence where
  anchor := .eof
  offset := offset
  subSequences := [{
    offset := .between 1 Word.greatest
    fragments := [.literal [0x50], ⟨[none, some 0x4B]⟩]
    gaps := [.between 0 Word.greatest] }]

/-- The same bytes, before the end and farther from there than any content is long. -/
def Signature.wide : Signature where
  id := 1
  specific := true
  sequences := [.wide 0, .wide Word.greatest]

/-- The two wide sequences, over four bytes and over none: no index is out of place. -/
theorem Library.indices_inside_wide :
    Indexed.flatten (.wide 0) = .ok (ByteSequence.wide 0).flatten ∧
      prepare "1" [] [.wide] = .ok ⟨"1", [], [prepareSignature [] .wide]⟩ ∧
      Indexed.occursIn (ByteSequence.wide 0).prepare [0x50, 0x01, 0x4B, 0x02] = .ok true ∧
      Indexed.occursIn (ByteSequence.wide 0).prepare [] = .ok false ∧
      Indexed.occursIn (ByteSequence.wide Word.greatest).prepare [0x50, 0x01, 0x4B, 0x02] =
        .ok false := by
  have prepared : prepare "1" [] [.wide] = .ok ⟨"1", [], [prepareSignature [] .wide]⟩ := rfl
  have looked := indices_inside.2 _ _ _ _ prepared _ (List.mem_singleton_self _)
  have near : (ByteSequence.wide 0).prepare ∈ (prepareSignature [] .wide).sequences :=
    prepare_mem_sequences [] List.mem_cons_self
  have far : (ByteSequence.wide Word.greatest).prepare ∈ (prepareSignature [] .wide).sequences :=
    prepare_mem_sequences [] (List.mem_cons_of_mem _ List.mem_cons_self)
  refine ⟨indices_inside.1 _ (by decide), prepared, ?_, ?_, ?_⟩
  · rw [looked _ near _ (by decide)]
    cbv
  · rw [looked _ near _ (by decide)]
    cbv
  · rw [looked _ far _ (by decide)]
    cbv

end Discern
