import Discern.Proofs.Signature.Search

/-!
# Rows of gaps and fragments

The steps of a byte sequence, read as a row of gaps and fragments, fill a stretch of
the content from one position to another (`Row`).  Rows are put together end to end
(`Row.append_iff`) and may be read from the other side: a row fills a stretch of a
content exactly when its mirror image fills the mirrored stretch of the reversed
content (`Row.mirror_iff`).
-/

namespace Discern

/-- **The bytes between two positions** are as many as the gap admits. -/
def Gap.Spans (gap : Gap) (start stop : Nat) : Prop := start ≤ stop ∧ gap.Admits (stop - start)

/-- A gap spans the bytes between two places if it admits their number. -/
theorem Gap.spans_add_iff (gap : Gap) (start skipped : Nat) :
    gap.Spans start (start + skipped) ↔ gap.Admits skipped := by
  simp [Gap.Spans]

/-- A fragment that lies in a content lies, reversed, in the reversed content. -/
theorem Fragment.LiesAt.mirror {fragment : Fragment} {content : Bytes} {start : Nat}
    (lies : fragment.LiesAt content start) :
    fragment.reverse.LiesAt content.reverse
      (content.length - (start + fragment.length)) := by
  have inside := lies.1
  refine ⟨by rw [Fragment.length_reverse, List.length_reverse]; omega, fun i byte asked => ?_⟩
  obtain ⟨low, -⟩ := List.getElem?_eq_some_iff.mp asked
  have low : i < fragment.cells.length := by simpa [Fragment.reverse] using low
  have inside : start + fragment.cells.length ≤ content.length := inside
  rw [Fragment.reverse, List.getElem?_reverse low] at asked
  rw [Fragment.length, List.getElem?_reverse (by omega), ← lies.2 _ byte asked]
  congr 1
  omega

/-- A gap or a fragment, as a part of a row. -/
inductive Piece where
  | skip (gap : Gap)
  | take (fragment : Fragment)

namespace Piece

/-- **A piece fills a stretch of a content.** -/
def Fills (content : Bytes) : Piece → Nat → Nat → Prop
  | skip gap, start, stop => gap.Spans start stop
  | take fragment, start, stop =>
    fragment.LiesAt content start ∧ stop = start + fragment.length

/-- The piece as it is seen from the other side. -/
def mirror : Piece → Piece
  | skip gap => .skip gap
  | take fragment => .take fragment.reverse

theorem Fills.le {content : Bytes} {piece : Piece} {start stop : Nat}
    (fills : piece.Fills content start stop) : start ≤ stop := by
  cases piece with
  | skip gap => exact fills.1
  | take fragment => exact fills.2 ▸ Nat.le_add_right _ _

@[simp] theorem mirror_mirror (piece : Piece) : piece.mirror.mirror = piece := by
  cases piece with
  | skip gap => rfl
  | take fragment => simp [mirror, Fragment.reverse]

/-- What fills a stretch fills, seen from the other side, the mirrored stretch. -/
theorem Fills.mirror {content : Bytes} {piece : Piece} {start stop : Nat}
    (fills : piece.Fills content start stop) (inside : stop ≤ content.length) :
    piece.mirror.Fills content.reverse (content.length - stop) (content.length - start) := by
  cases piece with
  | skip gap =>
      obtain ⟨le, admits⟩ := fills
      refine ⟨by omega, ?_⟩
      rwa [show content.length - start - (content.length - stop) = stop - start by omega]
  | take fragment =>
      obtain ⟨lies, rfl⟩ := fills
      exact ⟨lies.mirror, by rw [Fragment.length_reverse]; omega⟩

end Piece

/-- **Pieces fill a stretch of a content** one after the other. -/
def Row (content : Bytes) : List Piece → Nat → Nat → Prop
  | [], start, stop => start = stop
  | piece :: rest, start, stop =>
    ∃ middle, piece.Fills content start middle ∧ Row content rest middle stop

/-- The gap and the fragment of a step. -/
def Step.pieces (step : Step) : List Piece := [.skip step.gap, .take step.fragment]

/-- The fragments of a chain with the gap after each but the last. -/
def interleave : List Fragment → List Gap → List Piece
  | [], _ => []
  | fragment :: _, [] => [.take fragment]
  | fragment :: rest, gap :: gaps => .take fragment :: .skip gap :: interleave rest gaps

namespace Row

variable {content : Bytes}

/-- A row in two parts meets somewhere in the middle. -/
theorem append_iff (front back : List Piece) (start stop : Nat) :
    Row content (front ++ back) start stop ↔
      ∃ middle, Row content front start middle ∧ Row content back middle stop := by
  induction front generalizing start with
  | nil =>
      constructor
      · exact fun row => ⟨start, rfl, row⟩
      · rintro ⟨middle, rfl, row⟩
        exact row
  | cons piece rest ih =>
      simp only [List.cons_append, Row, ih]
      constructor
      · rintro ⟨first, fills, middle, front, back⟩
        exact ⟨middle, ⟨first, fills, front⟩, back⟩
      · rintro ⟨middle, ⟨first, fills, front⟩, back⟩
        exact ⟨first, fills, middle, front, back⟩

/-- A row of one piece is what the piece fills. -/
theorem singleton_iff (piece : Piece) (start stop : Nat) :
    Row content [piece] start stop ↔ piece.Fills content start stop := by
  simp [Row]

theorem le {pieces : List Piece} {start stop : Nat} (row : Row content pieces start stop) :
    start ≤ stop := by
  induction pieces generalizing start with
  | nil => exact Nat.le_of_eq row
  | cons piece rest ih =>
      obtain ⟨middle, fills, follows⟩ := row
      exact Nat.le_trans fills.le (ih follows)

/-- **A row seen from the other side** fills the mirrored stretch of the reversed
content. -/
theorem mirror {pieces : List Piece} {start stop : Nat} (row : Row content pieces start stop)
    (inside : stop ≤ content.length) :
    Row content.reverse (pieces.reverse.map Piece.mirror) (content.length - stop)
      (content.length - start) := by
  induction pieces generalizing start with
  | nil => exact congrArg (content.length - ·) (show stop = start from Eq.symm row)
  | cons piece rest ih =>
      obtain ⟨middle, fills, follows⟩ := row
      rw [List.reverse_cons, List.map_append, List.map_singleton, append_iff]
      exact ⟨content.length - middle, ih follows,
        (singleton_iff _ _ _).mpr (fills.mirror (Nat.le_trans follows.le inside))⟩

/-- Steps are placed when their pieces fill some stretch. -/
theorem placed_iff (steps : List Step) (position : Nat) :
    Placed content steps position ↔
      ∃ stop, Row content (steps.flatMap Step.pieces) position stop := by
  induction steps generalizing position with
  | nil => simp [Placed, Row]
  | cons step rest ih =>
      simp only [List.flatMap_cons, Step.pieces, List.cons_append, List.nil_append, Row,
        Piece.Fills, Placed, ih]
      constructor
      · rintro ⟨skipped, admits, lies, stop, row⟩
        exact ⟨stop, position + skipped, (step.gap.spans_add_iff _ _).mpr admits,
          position + skipped + step.fragment.length, ⟨lies, rfl⟩, row⟩
      · rintro ⟨stop, start, ⟨le, admits⟩, _, ⟨lies, rfl⟩, row⟩
        obtain ⟨skipped, rfl⟩ := Nat.exists_eq_add_of_le le
        rw [Nat.add_sub_cancel_left] at admits
        exact ⟨skipped, admits, lies, stop, row⟩

/-- A row of steps ends with a fragment, which lies inside the content. -/
theorem le_length {steps : List Step} (present : steps ≠ []) {start stop : Nat}
    (row : Row content (steps.flatMap Step.pieces) start stop) : stop ≤ content.length := by
  rw [← List.dropLast_append_getLast present, List.flatMap_append, append_iff] at row
  obtain ⟨_, -, _, -, _, ⟨lies, rfl⟩, rfl⟩ := row
  exact lies.1

/-- **Steps that walk the reversed content** from its beginning are, seen from the other
side, pieces that fill the content up to its end. -/
theorem exists_reverse_iff {steps : List Step} (present : steps ≠ []) :
    (∃ stop, Row content.reverse (steps.flatMap Step.pieces) 0 stop) ↔
      ∃ start, Row content ((steps.flatMap Step.pieces).reverse.map Piece.mirror) start
        content.length := by
  constructor
  · rintro ⟨stop, row⟩
    have back := row.mirror (le_length present row)
    rw [List.reverse_reverse, List.length_reverse, Nat.sub_zero] at back
    exact ⟨_, back⟩
  · rintro ⟨start, row⟩
    have back := row.mirror (Nat.le_refl _)
    rw [← List.map_reverse, List.reverse_reverse, List.map_map, Nat.sub_self] at back
    exact ⟨_, by simpa [Function.comp_def] using back⟩

end Row

/-- Two gaps and fragments that alternate make the pieces of a chain. -/
theorem flatMap_pieces_zipWith (leading : Gap) (gaps : List Gap) (fragments : List Fragment)
    (aligned : gaps.length + 1 = fragments.length) :
    (List.zipWith Step.mk (leading :: gaps) fragments).flatMap Step.pieces =
      .skip leading :: interleave fragments gaps := by
  induction gaps generalizing leading fragments with
  | nil =>
      obtain ⟨fragment, rfl⟩ := List.length_eq_one_iff.mp aligned.symm
      rfl
  | cons gap gaps ih =>
      cases fragments with
      | nil => simp at aligned
      | cons fragment fragments =>
          have shorter : gaps.length + 1 = fragments.length := by simpa using aligned
          rw [List.zipWith_cons_cons, List.flatMap_cons, ih gap fragments shorter]
          rfl

/-- The gaps of a chain stand among its pieces, and no others. -/
theorem mem_gaps_of_skip {fragments : List Fragment} {gaps : List Gap} {gap : Gap}
    (member : .skip gap ∈ interleave fragments gaps) : gap ∈ gaps := by
  induction fragments, gaps using interleave.induct with
  | case1 gaps => cases member
  | case2 fragment rest => simp [interleave] at member
  | case3 fragment rest first gaps ih =>
      simp only [interleave, List.mem_cons, reduceCtorEq, false_or, Piece.skip.injEq] at member
      rcases member with rfl | later
      · exact List.mem_cons_self
      · exact List.mem_cons_of_mem _ (ih later)

/-- A gap and a fragment put at the ends come last in the row. -/
theorem interleave_concat (fragments : List Fragment) (gaps : List Gap) (fragment : Fragment)
    (gap : Gap) (aligned : gaps.length + 1 = fragments.length) :
    interleave (fragments ++ [fragment]) (gaps ++ [gap]) =
      interleave fragments gaps ++ [.skip gap, .take fragment] := by
  induction gaps generalizing fragments with
  | nil =>
      obtain ⟨first, rfl⟩ := List.length_eq_one_iff.mp aligned.symm
      rfl
  | cons first gaps ih =>
      cases fragments with
      | nil => simp at aligned
      | cons head fragments =>
          have shorter : gaps.length + 1 = fragments.length := by simpa using aligned
          simp only [List.cons_append, interleave, ih fragments shorter]

/-- A chain seen from the other side is the chain of the mirrored fragments. -/
theorem interleave_mirror (fragments : List Fragment) (gaps : List Gap)
    (aligned : gaps.length + 1 = fragments.length) :
    (interleave (fragments.reverse.map Fragment.reverse) gaps.reverse).reverse.map Piece.mirror =
      interleave fragments gaps := by
  induction gaps generalizing fragments with
  | nil =>
      obtain ⟨fragment, rfl⟩ := List.length_eq_one_iff.mp aligned.symm
      simp [interleave, Piece.mirror, Fragment.reverse]
  | cons gap gaps ih =>
      cases fragments with
      | nil => simp at aligned
      | cons fragment fragments =>
          have shorter : gaps.length + 1 = fragments.length := by simpa using aligned
          rw [List.reverse_cons, List.map_append, List.map_singleton, List.reverse_cons,
            interleave_concat _ _ _ _ (by simpa using shorter), List.reverse_append,
            List.map_append, ih fragments shorter]
          simp [interleave, Piece.mirror, Fragment.reverse]

end Discern
