import Discern.Proofs.Signature.Placement

/-!
# Occurrences are placements

The steps into which a byte sequence is flattened are, read as a row of gaps and
fragments, its joined sub-sequences behind the gap to the beginning of the content
(`ByteSequence.pieces_flatten`) or, seen from the other side, before the gap to its
end (`ByteSequence.pieces_flatten_eof`).  With the exactness of the search this shows
that a prepared sequence occurs in a content exactly when it has a placement there
(`Library.occursIn_iff_exists_placement`).
-/

namespace Discern

/-- Changing the gap of the first step changes the leading gap of its chain. -/
private theorem modifyHead_zipWith (change : Gap → Gap) (leading : Gap) (gaps : List Gap)
    {fragments : List Fragment} (present : fragments ≠ []) (tail : List Step) :
    (List.zipWith Step.mk (leading :: gaps) fragments ++ tail).modifyHead
        (fun step => { step with gap := change step.gap }) =
      List.zipWith Step.mk (change leading :: gaps) fragments ++ tail := by
  obtain ⟨fragment, rest, rfl⟩ := List.exists_cons_of_ne_nil present
  rfl

/-- The steps of a sub-sequence are its offset, its fragments and its gaps in a row. -/
theorem SubSequence.pieces_stepsForward (sub : SubSequence)
    (aligned : sub.gaps.length + 1 = sub.fragments.length) :
    sub.stepsForward.flatMap Step.pieces = .skip sub.offset :: interleave sub.fragments sub.gaps :=
  flatMap_pieces_zipWith _ _ _ aligned

/-- The steps of a chain that is walked backwards, with any leading gap. -/
theorem SubSequence.mirror_stepsBackward (leading : Gap) (sub : SubSequence)
    (aligned : sub.gaps.length + 1 = sub.fragments.length) :
    ((List.zipWith Step.mk (leading :: sub.gaps.reverse)
        (sub.fragments.reverse.map Fragment.reverse)).flatMap Step.pieces).reverse.map
          Piece.mirror =
      interleave sub.fragments sub.gaps ++ [.skip leading] := by
  rw [flatMap_pieces_zipWith _ _ _ (by simpa using aligned), List.reverse_cons, List.map_append,
    interleave_mirror _ _ aligned]
  rfl

/-- Where the leading gaps lie before the sub-sequences, they link the later ones to the
earlier ones. -/
theorem joined_next (first : SubSequence) (rest : List SubSequence) :
    joined (fun _ next => next.offset) first rest =
      interleave first.fragments first.gaps ++
        rest.flatMap fun sub => .skip sub.offset :: interleave sub.fragments sub.gaps := by
  induction rest generalizing first with
  | nil => simp [joined]
  | cons next rest ih => simp only [joined, ih, List.flatMap_cons, List.cons_append]

/-- Where the leading gaps lie behind the sub-sequences, they link the earlier ones to
the later ones. -/
theorem joined_sub (first : SubSequence) (rest : List SubSequence) :
    joined (fun sub _ => sub.offset) first rest =
      (first :: rest).dropLast.flatMap
          (fun sub => interleave sub.fragments sub.gaps ++ [.skip sub.offset]) ++
        interleave ((first :: rest).getLast (by simp)).fragments
          ((first :: rest).getLast (by simp)).gaps := by
  induction rest generalizing first with
  | nil => simp [joined]
  | cons next rest ih => simp [joined, ih]

/-- Every sub-sequence has a fragment, and one gap fewer than fragments. -/
def Aligned (subs : List SubSequence) : Prop :=
  ∀ sub ∈ subs, sub.fragments ≠ [] ∧ sub.gaps.length + 1 = sub.fragments.length

namespace ByteSequence

variable {sequence : ByteSequence} {first : SubSequence} {rest : List SubSequence}

/-- **The steps of a sequence that is not anchored at the end** are its joined
sub-sequences behind the gap to the anchor. -/
theorem pieces_flatten (subs : sequence.subSequences = first :: rest)
    (forward : sequence.anchor ≠ .eof) (aligned : Aligned (first :: rest)) :
    sequence.flatten.flatMap Step.pieces =
      .skip (sequence.anchoredGap first.offset) ::
        joined (fun _ next => next.offset) first rest := by
  obtain ⟨present, alignedFirst⟩ := aligned first (by simp)
  have chained : sequence.chain =
      first.stepsForward ++ rest.flatMap SubSequence.stepsForward := by
    unfold chain
    split
    · exact absurd ‹_› forward
    · rw [subs, List.flatMap_cons]
  rw [flatten, chained, SubSequence.stepsForward, modifyHead_zipWith _ _ _ present,
    List.flatMap_append, flatMap_pieces_zipWith _ _ _ alignedFirst, joined_next,
    List.flatMap_assoc, List.cons_append]
  congr 2
  exact List.flatMap_congr fun sub member =>
    sub.pieces_stepsForward (aligned sub (List.mem_cons_of_mem _ member)).2

/-- **The steps of a sequence anchored at the end** are, seen from the other side, its
joined sub-sequences before the gap to the end. -/
theorem pieces_flatten_eof (subs : sequence.subSequences = first :: rest)
    (backward : sequence.anchor = .eof) (aligned : Aligned (first :: rest)) :
    (sequence.flatten.flatMap Step.pieces).reverse.map Piece.mirror =
      joined (fun sub _ => sub.offset) first rest ++
        [.skip (sequence.anchoredGap ((first :: rest).getLast (by simp)).offset)] := by
  have split := List.dropLast_append_getLast (l := first :: rest) (by simp)
  generalize lastEq : (first :: rest).getLast (by simp) = last at split ⊢
  generalize initEq : (first :: rest).dropLast = init at split
  obtain ⟨present, alignedLast⟩ := aligned last (by simp [← split])
  have chained : sequence.chain =
      last.stepsBackward ++ init.reverse.flatMap SubSequence.stepsBackward := by
    rw [chain, backward]
    simp only [subs, ← split, List.reverse_append, List.reverse_singleton, List.singleton_append,
      List.flatMap_cons]
  rw [flatten, chained, SubSequence.stepsBackward,
    modifyHead_zipWith _ _ _ (by simpa using present),
    List.flatMap_append, List.reverse_append, List.map_append,
    SubSequence.mirror_stepsBackward _ _ alignedLast, joined_sub, lastEq, initEq,
    ← List.append_assoc]
  congr 2
  rw [List.flatMap_assoc, List.reverse_flatMap, List.reverse_reverse, List.map_flatMap]
  refine List.flatMap_congr fun sub member => ?_
  exact SubSequence.mirror_stepsBackward _ _
    (aligned sub (split ▸ List.mem_append_left _ member)).2

/-- A sequence without a flaw has a sub-sequence, and in each a gap between any two fragments. -/
theorem exists_aligned (flawless : sequence.flaw? = none) :
    ∃ first rest, sequence.subSequences = first :: rest ∧ Aligned (first :: rest) := by
  obtain ⟨present, sound⟩ := (flaw?_eq_none_iff _).mp flawless
  obtain ⟨first, rest, subs⟩ := List.exists_cons_of_ne_nil present
  refine ⟨first, rest, subs, fun sub member => ?_⟩
  obtain ⟨fragments, -, aligned, -⟩ := (sub.flaw?_eq_none_iff).mp (sound sub (subs ▸ member))
  exact ⟨fragments, aligned⟩

/-- A sequence with steps occurs in a content when the steps can be placed there. -/
theorem occursIn_iff_placed (present : sequence.steps ≠ []) (content : Bytes) :
    sequence.occursIn content = true ↔
      Placed (sequence.view content).toList sequence.steps 0 := by
  have searched := (Search.place_spec (sequence.view content) sequence.steps sequence.steps
    List.suffix_rfl 0 ∅ (Search.Sound.empty _ _)).1
  simp [occursIn, present, searched]

/-- A forward sequence occurs where its first fragment is as far from the beginning as
the gap to the anchor admits, and all lie there as declared. -/
theorem occursIn_prepare_iff (subs : sequence.subSequences = first :: rest)
    (forward : sequence.anchor ≠ .eof) (aligned : Aligned (first :: rest)) (content : Bytes) :
    sequence.prepare.occursIn content = true ↔
      ∃ start, Layout content (fun _ next => next.offset) (first :: rest) start ∧
        (sequence.anchoredGap first.offset).Admits (start 0 0) := by
  have pieces := pieces_flatten subs forward aligned
  have present : sequence.flatten ≠ [] := fun empty => by simp [empty] at pieces
  have view : (sequence.prepare.view content).toList = content := by
    unfold view
    split
    · exact absurd ‹_› forward
    · rfl
  rw [occursIn_iff_placed present, view, Row.placed_iff]
  change (∃ stop, Row content (sequence.flatten.flatMap Step.pieces) 0 stop) ↔ _
  simp only [pieces, Row, Piece.Fills, Gap.Spans, Nat.zero_le, true_and, Nat.sub_zero,
    ← exists_layout_iff fun sub member => (aligned sub member).2]
  constructor
  · rintro ⟨_, _, admits, start, layout, rfl, rfl⟩
    exact ⟨start, layout, admits⟩
  · rintro ⟨start, layout, admits⟩
    exact ⟨_, start 0 0, admits, start, layout, rfl, rfl⟩

/-- A backward sequence occurs where its last fragment ends as far from the end as the
gap to the anchor admits, and all lie there as declared. -/
theorem occursIn_prepare_iff_eof (subs : sequence.subSequences = first :: rest)
    (backward : sequence.anchor = .eof) (aligned : Aligned (first :: rest)) (content : Bytes) :
    sequence.prepare.occursIn content = true ↔
      ∃ start, Layout content (fun sub _ => sub.offset) (first :: rest) start ∧
        (sequence.anchoredGap ((first :: rest).getLast (by simp)).offset).Spans
          (((first :: rest).getLast (by simp)).stop (start rest.length)) content.length := by
  have pieces := pieces_flatten_eof subs backward aligned
  have present : sequence.flatten ≠ [] := fun empty => by simp [empty] at pieces
  have view : (sequence.prepare.view content).toList = content.reverse := by
    simp [ByteSequence.view, prepare, backward]
  rw [occursIn_iff_placed present, view, Row.placed_iff]
  refine (Row.exists_reverse_iff present).trans ?_
  simp only [pieces, Row.append_iff, Row.singleton_iff, Piece.Fills,
    ← exists_layout_iff fun sub member => (aligned sub member).2]
  constructor
  · rintro ⟨_, _, ⟨start, layout, rfl, rfl⟩, spans⟩
    exact ⟨start, layout, spans⟩
  · rintro ⟨start, layout, spans⟩
    exact ⟨start 0 0, _, ⟨start, layout, rfl, rfl⟩, spans⟩

/-- Preparation keeps the meaning of a sequence without a flaw. -/
theorem occursIn_prepare_iff_placement (flawless : sequence.flaw? = none) (content : Bytes)
    (short : content.length ≤ addressable) :
    sequence.prepare.occursIn content = true ↔
      ∃ start, sequence.prepare.Placement content start := by
  obtain ⟨first, rest, subs, aligned⟩ := exists_aligned flawless
  have startLe : ∀ {link start}, Layout content link (first :: rest) start →
      start 0 0 ≤ addressable := fun layout =>
    Nat.le_trans ((layout.sub 0 first rfl).start_le (aligned first (by simp)).1) short
  cases anchor : sequence.anchor with
  | bof =>
      rw [occursIn_prepare_iff subs (by simp [anchor]) aligned]
      refine exists_congr fun start => ?_
      simp only [Placement, prepare, anchor, subs]
      refine and_congr_right fun layout => ?_
      simp [anchoredGap, anchor, Gap.shift_admits_iff _ _ (startLe layout)]
  | «variable» =>
      rw [occursIn_prepare_iff subs (by simp [anchor]) aligned]
      refine exists_congr fun start => ?_
      simp only [Placement, prepare, anchor, subs]
      refine and_congr_right fun layout => ?_
      simp [anchoredGap, anchor, Gap.shift_unbounded_admits_iff _ _ (startLe layout)]
  | eof =>
      rw [occursIn_prepare_iff_eof subs anchor aligned]
      refine exists_congr fun start => ?_
      simp only [Placement, prepare, anchor, subs]
      refine and_congr_right fun layout => ?_
      have member : (first :: rest).getLast (by simp) ∈ first :: rest := List.getLast_mem _
      have inside := (layout.sub rest.length _ (by
        rw [← List.getLast?_eq_some_getLast, List.getLast?_eq_getElem?]; rfl)).stop_le
          (aligned _ member).1
      simp [anchoredGap, anchor, Gap.Spans, inside, List.getLast?_eq_some_getLast,
        Gap.shift_admits_iff _ _ (Nat.le_trans (Nat.sub_le _ _) short)]

end ByteSequence

/-- **Exactness of matching.**  A byte sequence of a prepared library occurs in a content
exactly when all its fragments have a placement there as its sub-sequences declare. -/
theorem Library.occursIn_iff_exists_placement {version : String} {formats : List FileFormat}
    {signatures : List Signature} {library : Library}
    (prepared : prepare version formats signatures = .ok library) {signature : Signature}
    (known : signature ∈ library.signatures) {sequence : ByteSequence}
    (listed : sequence ∈ signature.sequences) (content : Bytes)
    (short : content.length ≤ addressable) :
    sequence.occursIn content = true ↔ ∃ start, sequence.Placement content start := by
  obtain ⟨declared, flawless, rfl⟩ :=
    (Prepared.of_prepare prepared).flawless signature known sequence listed
  exact declared.occursIn_prepare_iff_placement flawless content short

/-- A directory entry and, anywhere behind it, the record that ends an archive, with at
most two bytes of comment after its eighteen fields. -/
def Signature.archiveEnd : Signature where
  id := 1
  specific := true
  sequences := [{
    anchor := .eof
    offset := 18
    subSequences := [
      { offset := .atLeast 0, fragments := [.literal [0x50, 0x4B, 0x01, 0x02]], gaps := [] },
      { offset := .between 0 2, fragments := [.literal [0x50, 0x4B], .literal [0x05, 0x06]],
        gaps := [.none] }] }]

/-- The end record is placed behind one that is cut, by both of its sub-sequences. -/
theorem Library.archiveEnd_placement :
    prepare "1" [] [.archiveEnd] = .ok ⟨"1", [], [prepareSignature [] .archiveEnd]⟩ ∧
      ∃ sequence ∈ (prepareSignature [] .archiveEnd).sequences, ∃ start,
        sequence.Placement
          ([0x50, 0x4B, 0x01, 0x02, 0x2E, 0x50, 0x4B, 0x05, 0x06] ++ List.replicate 19 0)
          start := by
  have prepared : prepare "1" [] [.archiveEnd] =
      .ok ⟨"1", [], [prepareSignature [] .archiveEnd]⟩ := rfl
  have present : Signature.archiveEnd.sequences ≠ [] := List.cons_ne_nil _ _
  have listed := prepare_mem_sequences [] (List.head_mem present)
  refine ⟨prepared, _, listed, ?_⟩
  exact (occursIn_iff_exists_placement prepared (List.mem_singleton_self _)
    listed _ (by decide)).mp (by cbv)

end Discern
