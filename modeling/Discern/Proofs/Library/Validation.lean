import Discern.Proofs.Library.Preparation
import Mathlib.Data.List.Duplicate

/-!
# Validation of libraries

Which formats and signatures make a library is said without the checks (`Library.WellFormed`), and
so is what each flaw says about them (`LibraryFlaw.Marks`).  Preparation accepts exactly what is
well-formed, and a flaw that it reports is there (`Library.prepare_validates`).
-/

namespace Discern

/-! ## The shape of a sequence -/

/-- **A chain that can be matched.** -/
structure SubSequence.WellFormed (sub : SubSequence) : Prop where
  nonempty : sub.fragments ≠ []
  solid : ∀ fragment ∈ sub.fragments, fragment.cells ≠ []
  aligned : sub.gaps.length + 1 = sub.fragments.length
  upright : ∀ gap ∈ sub.offset :: sub.gaps, ∀ max, gap.max = some max → gap.min ≤ max

/-- **A byte sequence that can be matched.** -/
structure ByteSequence.WellFormed (sequence : ByteSequence) : Prop where
  nonempty : sequence.subSequences ≠ []
  sound : ∀ sub ∈ sequence.subSequences, sub.WellFormed

/-- **A signature that can be tried.** -/
structure Signature.WellFormed (signature : Signature) : Prop where
  nonempty : signature.sequences ≠ []
  sound : ∀ sequence ∈ signature.sequences, sequence.WellFormed

/-- **What a flaw says about the shape of a sequence.** -/
def ShapeFlaw.Marks (sequence : ByteSequence) : ShapeFlaw → Prop
  | noSubSequence => sequence.subSequences = []
  | noFragment => ∃ sub ∈ sequence.subSequences, sub.fragments = []
  | emptyFragment =>
    ∃ sub ∈ sequence.subSequences, ∃ fragment ∈ sub.fragments, fragment.cells = []
  | misalignedGaps fragments gaps =>
    ∃ sub ∈ sequence.subSequences,
      sub.fragments.length = fragments ∧ sub.gaps.length = gaps ∧ gaps + 1 ≠ fragments
  | invertedGap min max =>
    ∃ sub ∈ sequence.subSequences, ⟨min, some max⟩ ∈ sub.offset :: sub.gaps ∧ max < min

/-- A gap is inverted if its upper bound is below the lower one. -/
theorem Gap.inverted?_eq_some_iff (gap : Gap) (max : UInt64) :
    gap.inverted? = some max ↔ gap.max = some max ∧ max < gap.min := by
  rw [Gap.inverted?, Option.filter_eq_some_iff, decide_eq_true_eq]

/-- A gap is not inverted if its bounds are in order. -/
theorem Gap.inverted?_eq_none_iff (gap : Gap) :
    gap.inverted? = Option.none ↔ ∀ max, gap.max = some max → gap.min ≤ max := by
  simp only [Option.eq_none_iff_forall_ne_some, ne_eq, Gap.inverted?_eq_some_iff, not_and,
    UInt64.not_lt]

/-- A sub-sequence without a flaw is well formed. -/
theorem SubSequence.flaw?_eq_none_iff_wellFormed (sub : SubSequence) :
    sub.flaw? = none ↔ sub.WellFormed := by
  rw [sub.flaw?_eq_none_iff]
  simp only [Gap.inverted?_eq_none_iff]
  exact ⟨fun ⟨nonempty, solid, aligned, upright⟩ => ⟨nonempty, solid, aligned, upright⟩,
    fun ⟨nonempty, solid, aligned, upright⟩ => ⟨nonempty, solid, aligned, upright⟩⟩

/-- A sequence without a flaw is well formed. -/
theorem ByteSequence.flaw?_eq_none_iff_wellFormed (sequence : ByteSequence) :
    sequence.flaw? = none ↔ sequence.WellFormed := by
  simp only [sequence.flaw?_eq_none_iff, SubSequence.flaw?_eq_none_iff_wellFormed]
  exact ⟨fun ⟨nonempty, sound⟩ => ⟨nonempty, sound⟩, fun ⟨nonempty, sound⟩ => ⟨nonempty, sound⟩⟩

/-- The flaw of a sub-sequence is one of its sequence. -/
theorem SubSequence.flaw?_marks {sub : SubSequence} {flaw : ShapeFlaw}
    (found : sub.flaw? = some flaw) {sequence : ByteSequence}
    (member : sub ∈ sequence.subSequences) : flaw.Marks sequence := by
  unfold flaw? at found
  split_ifs at found with noFragment emptyFragment misaligned
  · cases found
    exact ⟨sub, member, List.isEmpty_iff.mp noFragment⟩
  · cases found
    obtain ⟨fragment, known, empty⟩ := List.any_eq_true.mp emptyFragment
    exact ⟨sub, member, fragment, known, List.isEmpty_iff.mp empty⟩
  · cases found
    exact ⟨sub, member, rfl, rfl, misaligned⟩
  · obtain ⟨gap, known, bounds⟩ := List.exists_of_findSome?_eq_some found
    obtain ⟨max, inverted, rfl⟩ := Option.map_eq_some_iff.mp bounds
    obtain ⟨upper, below⟩ := (gap.inverted?_eq_some_iff max).mp inverted
    exact ⟨sub, member, upper ▸ known, below⟩

/-- The flaw that is found in a sequence is there. -/
theorem ByteSequence.flaw?_marks {sequence : ByteSequence} {flaw : ShapeFlaw}
    (found : sequence.flaw? = some flaw) : flaw.Marks sequence := by
  unfold flaw? at found
  split_ifs at found with empty
  · cases found
    exact List.isEmpty_iff.mp empty
  · obtain ⟨sub, member, found⟩ := List.exists_of_findSome?_eq_some found
    exact sub.flaw?_marks found member

/-- Where all chains can be matched, the one flaw that a sequence can have is that there is none. -/
theorem ShapeFlaw.Marks.eq_noSubSequence {sequence : ByteSequence} {flaw : ShapeFlaw}
    (marks : flaw.Marks sequence) (sound : ∀ sub ∈ sequence.subSequences, sub.WellFormed) :
    flaw = .noSubSequence := by
  cases flaw with
  | noSubSequence => rfl
  | noFragment =>
      obtain ⟨sub, member, empty⟩ := marks
      exact absurd empty (sound sub member).nonempty
  | emptyFragment =>
      obtain ⟨sub, member, fragment, known, empty⟩ := marks
      exact absurd empty ((sound sub member).solid fragment known)
  | misalignedGaps =>
      obtain ⟨sub, member, rfl, rfl, misaligned⟩ := marks
      exact absurd (sound sub member).aligned misaligned
  | invertedGap min max =>
      obtain ⟨sub, member, known, below⟩ := marks
      exact absurd ((sound sub member).upright _ known max rfl) (UInt64.not_le.mpr below)

/-- What has a flaw is not well formed. -/
theorem ShapeFlaw.Marks.not_wellFormed {sequence : ByteSequence} {flaw : ShapeFlaw}
    (marks : flaw.Marks sequence) : ¬sequence.WellFormed := by
  intro wellFormed
  obtain rfl := marks.eq_noSubSequence wellFormed.sound
  exact wellFormed.nonempty marks

/-! ## Repeated ids -/

/-- What is repeated was seen or stands twice. -/
private theorem firstRepeat?_go_eq_some {α : Type} [DecidableEq α] {seen xs : List α} {x : α}
    (found : firstRepeat?.go seen xs = some x) :
    x ∈ seen ∧ x ∈ xs ∨ List.Duplicate x xs := by
  induction xs generalizing seen with
  | nil => cases found
  | cons y rest ih =>
      rw [firstRepeat?.go] at found
      split_ifs at found with member
      · cases found
        exact .inl ⟨member, List.mem_cons_self⟩
      · rcases ih found with ⟨before, later⟩ | again
        · rcases List.mem_cons.mp before with rfl | before
          · exact .inr (later.duplicate_cons_self)
          · exact .inl ⟨before, List.mem_cons_of_mem _ later⟩
        · exact .inr (again.duplicate_cons y)

/-- What is repeated stands twice. -/
theorem firstRepeat?_eq_some {α : Type} [DecidableEq α] {xs : List α} {x : α}
    (found : firstRepeat? xs = some x) : List.Duplicate x xs := by
  rcases firstRepeat?_go_eq_some found with ⟨before, -⟩ | again
  · cases before
  · exact again

/-! ## The library -/

/-- **What a flaw says about formats and signatures.** -/
def LibraryFlaw.Marks (formats : List FileFormat) (signatures : List Signature) :
    LibraryFlaw → Prop
  | duplicateFormat id => List.Duplicate id (formats.map FileFormat.id)
  | duplicateSignature id => List.Duplicate id (signatures.map Signature.id)
  | unresolvedSignature format id =>
    (∃ owner ∈ formats, owner.id = format ∧ id ∈ owner.signatures) ∧
      ∀ signature ∈ signatures, signature.id ≠ id
  | unresolvedFormat format target =>
    (∃ source ∈ formats, source.id = format ∧ target ∈ source.hasPriorityOver) ∧
      ∀ other ∈ formats, other.id ≠ target
  | selfPriority format => ∃ source ∈ formats, source.id = format ∧ format ∈ source.hasPriorityOver
  | mutualPriority first second =>
    first ≠ second ∧ (∃ one ∈ formats, one.id = first ∧ second ∈ one.hasPriorityOver) ∧
      ∃ other ∈ formats, other.id = second ∧ first ∈ other.hasPriorityOver
  | noSequence id => ∃ signature ∈ signatures, signature.id = id ∧ signature.sequences = []
  | shape id flaw =>
    ∃ signature ∈ signatures, signature.id = id ∧
      ∃ sequence ∈ signature.sequences, flaw.Marks sequence

namespace Library

/-- **Formats and signatures that make a library.** -/
structure WellFormed (formats : List FileFormat) (signatures : List Signature) : Prop where
  formatIds : (formats.map FileFormat.id).Nodup
  signatureIds : (signatures.map Signature.id).Nodup
  targets : ∀ format ∈ formats, ∀ target ∈ format.hasPriorityOver,
    target ≠ format.id ∧ ∃ other ∈ formats, other.id = target
  oneWay : ∀ one ∈ formats, ∀ other ∈ formats,
    other.id ∈ one.hasPriorityOver → one.id ∉ other.hasPriorityOver
  resolved : ∀ format ∈ formats, ∀ id ∈ format.signatures,
    ∃ signature ∈ signatures, signature.id = id
  sound : ∀ signature ∈ signatures, signature.WellFormed

variable {formats : List FileFormat} {signatures : List Signature}

/-- The priorities are those that formats declare. -/
theorem mem_priorities_iff {one other : UInt32} :
    (one, other) ∈ priorities formats ↔
      ∃ format ∈ formats, format.id = one ∧ other ∈ format.hasPriorityOver := by
  simp only [priorities, List.mem_flatMap, List.mem_map, Prod.mk.injEq]
  constructor
  · rintro ⟨format, known, target, listed, rfl, rfl⟩
    exact ⟨format, known, rfl, listed⟩
  · rintro ⟨format, known, rfl, listed⟩
    exact ⟨format, known, other, listed, rfl, rfl⟩

/-- A priority without a flaw is over another format that is there. -/
theorem priorityFlaw?_eq_none_iff (edge : UInt32 × UInt32) :
    priorityFlaw? formats edge = none ↔
      edge.2 ≠ edge.1 ∧ ∃ other ∈ formats, other.id = edge.2 := by
  unfold priorityFlaw?
  split_ifs with self known
  · exact iff_of_false nofun fun sound => sound.1 self
  · exact iff_of_true rfl ⟨self, by simpa using known⟩
  · refine iff_of_false nofun fun sound => known ?_
    simpa using sound.2

/-- No two priorities are mutual if none is declared back. -/
theorem mutualAmong?_eq_none_iff (edges : List (UInt32 × UInt32)) :
    mutualAmong? edges = none ↔
      ∀ first second, (first, second) ∈ edges → first < second → (second, first) ∉ edges := by
  simp [mutualAmong?, List.findSome?_eq_none_iff, Prod.forall]

/-- A format has no unresolved signature if all that it lists are there. -/
theorem unresolvedSignature?_eq_none_iff (format : FileFormat) :
    unresolvedSignature? signatures format = none ↔
      ∀ id ∈ format.signatures, ∃ signature ∈ signatures, signature.id = id := by
  simp [unresolvedSignature?, List.find?_eq_none]

/-- A signature without a flaw is well formed. -/
theorem signatureFlaw?_eq_none_iff_wellFormed (signature : Signature) :
    signatureFlaw? signature = none ↔ signature.WellFormed := by
  simp only [signatureFlaw?_eq_none_iff, ByteSequence.flaw?_eq_none_iff_wellFormed]
  exact ⟨fun ⟨nonempty, sound⟩ => ⟨nonempty, sound⟩, fun ⟨nonempty, sound⟩ => ⟨nonempty, sound⟩⟩

/-- Where no format has priority over itself, the search for edges that lead both ways finds all
of them, because one of the two leads to the greater id. -/
theorem mutualPriority?_eq_none_iff
    (noLoop : ∀ format ∈ formats, format.id ∉ format.hasPriorityOver) :
    mutualPriority? formats = none ↔ ∀ one ∈ formats, ∀ other ∈ formats,
      other.id ∈ one.hasPriorityOver → one.id ∉ other.hasPriorityOver := by
  simp only [mutualPriority?, mutualAmong?_eq_none_iff, mem_priorities_iff]
  constructor
  · intro upwards one first other second forth back
    have different : one.id ≠ other.id := fun same => noLoop one first (same ▸ forth)
    rcases UInt32.lt_or_lt_of_ne different with below | above
    · exact upwards _ _ ⟨one, first, rfl, forth⟩ below ⟨other, second, rfl, back⟩
    · exact upwards _ _ ⟨other, second, rfl, back⟩ above ⟨one, first, rfl, forth⟩
  · rintro oneWay _ _ ⟨one, first, rfl, forth⟩ - ⟨other, second, rfl, back⟩
    exact oneWay one first other second forth back

/-- **The checks find no flaw exactly in what is well-formed.** -/
theorem flaw?_eq_none_iff_wellFormed :
    flaw? formats signatures = none ↔ WellFormed formats signatures := by
  simp only [flaw?_eq_none_iff, priorityFlaw?_eq_none_iff, Prod.forall, mem_priorities_iff,
    signatureFlaw?_eq_none_iff_wellFormed, unresolvedSignature?_eq_none_iff]
  constructor
  · rintro ⟨formatIds, signatureIds, targets, oneWay, sound, resolved⟩
    have targets : ∀ format ∈ formats, ∀ target ∈ format.hasPriorityOver,
        target ≠ format.id ∧ ∃ other ∈ formats, other.id = target :=
      fun format known target listed => targets _ _ ⟨format, known, rfl, listed⟩
    have noLoop : ∀ format ∈ formats, format.id ∉ format.hasPriorityOver :=
      fun format known listed => (targets format known _ listed).1 rfl
    exact ⟨formatIds, signatureIds, targets,
      (mutualPriority?_eq_none_iff noLoop).mp oneWay, resolved, sound⟩
  · rintro ⟨formatIds, signatureIds, targets, oneWay, resolved, sound⟩
    have noLoop : ∀ format ∈ formats, format.id ∉ format.hasPriorityOver :=
      fun format known listed => (targets format known _ listed).1 rfl
    refine ⟨formatIds, signatureIds, ?_, (mutualPriority?_eq_none_iff noLoop).mpr oneWay,
      sound, resolved⟩
    rintro _ target ⟨format, known, rfl, listed⟩
    exact targets format known target listed

/-- A mutual priority that is found is declared both ways. -/
theorem mutualAmong?_marks {edges : List (UInt32 × UInt32)} {flaw : LibraryFlaw}
    (declared : ∀ edge ∈ edges, edge ∈ priorities formats)
    (found : mutualAmong? edges = some flaw) : flaw.Marks formats signatures := by
  obtain ⟨⟨first, second⟩, edge, report⟩ := List.exists_of_findSome?_eq_some found
  dsimp only at report
  split_ifs at report with both
  cases report
  exact ⟨UInt32.ne_of_lt both.1, mem_priorities_iff.mp (declared _ edge),
    mem_priorities_iff.mp (declared _ both.2)⟩

/-- The flaw of a priority is there. -/
theorem priorityFlaw?_marks {edge : UInt32 × UInt32} {flaw : LibraryFlaw}
    (declared : edge ∈ priorities formats) (found : priorityFlaw? formats edge = some flaw) :
    flaw.Marks formats signatures := by
  obtain ⟨format, target⟩ := edge
  have source := mem_priorities_iff.mp declared
  unfold priorityFlaw? at found
  split_ifs at found with self known
  · cases found
    obtain rfl : target = format := self
    exact source
  · cases found
    exact ⟨source, by simpa using known⟩

/-- The flaw of a signature is there. -/
theorem signatureFlaw?_marks {signature : Signature} {flaw : LibraryFlaw}
    (declared : signature ∈ signatures) (found : signatureFlaw? signature = some flaw) :
    flaw.Marks formats signatures := by
  unfold signatureFlaw? at found
  split_ifs at found with empty
  · cases found
    exact ⟨signature, declared, rfl, List.isEmpty_iff.mp empty⟩
  · obtain ⟨sequence, listed, found⟩ := List.exists_of_findSome?_eq_some found
    obtain ⟨shape, misshapen, rfl⟩ := Option.map_eq_some_iff.mp found
    exact ⟨signature, declared, rfl, sequence, listed, ByteSequence.flaw?_marks misshapen⟩

/-- A signature that is reported as unresolved is not there. -/
theorem unresolvedSignature?_marks {format : FileFormat} {flaw : LibraryFlaw}
    (declared : format ∈ formats) (found : unresolvedSignature? signatures format = some flaw) :
    flaw.Marks formats signatures := by
  obtain ⟨id, missing, rfl⟩ := Option.map_eq_some_iff.mp found
  refine ⟨⟨format, declared, rfl, List.mem_of_find?_eq_some missing⟩, ?_⟩
  simpa using List.find?_some missing

/-- **A flaw that is found is there.** -/
theorem flaw?_marks {flaw : LibraryFlaw} (found : flaw? formats signatures = some flaw) :
    flaw.Marks formats signatures := by
  simp only [flaw?, Option.orElse_eq_orElse, Option.orElse_eq_or, Option.or_eq_some_iff,
    Option.map_eq_some_iff] at found
  rcases found with ⟨id, twice, rfl⟩ | ⟨-, ⟨id, twice, rfl⟩ | ⟨-, found | ⟨-, found | ⟨-, found |
    ⟨-, found⟩⟩⟩⟩⟩
  · exact firstRepeat?_eq_some twice
  · exact firstRepeat?_eq_some twice
  · obtain ⟨edge, declared, found⟩ := List.exists_of_findSome?_eq_some found
    exact priorityFlaw?_marks declared found
  · exact mutualAmong?_marks (fun _ => id) found
  · obtain ⟨signature, declared, found⟩ := List.exists_of_findSome?_eq_some found
    exact signatureFlaw?_marks declared found
  · obtain ⟨format, declared, found⟩ := List.exists_of_findSome?_eq_some found
    exact unresolvedSignature?_marks declared found

/-- No flaw is there in what is well-formed. -/
theorem not_wellFormed_of_marks {flaw : LibraryFlaw} (marks : flaw.Marks formats signatures) :
    ¬WellFormed formats signatures := by
  intro wellFormed
  cases flaw with
  | duplicateFormat id => exact marks.not_nodup wellFormed.formatIds
  | duplicateSignature id => exact marks.not_nodup wellFormed.signatureIds
  | unresolvedSignature format id =>
      obtain ⟨⟨owner, known, -, listed⟩, missing⟩ := marks
      obtain ⟨signature, declared, same⟩ := wellFormed.resolved owner known id listed
      exact missing signature declared same
  | unresolvedFormat format target =>
      obtain ⟨⟨source, known, -, listed⟩, missing⟩ := marks
      obtain ⟨-, other, declared, same⟩ := wellFormed.targets source known target listed
      exact missing other declared same
  | selfPriority format =>
      obtain ⟨source, known, rfl, listed⟩ := marks
      exact (wellFormed.targets source known _ listed).1 rfl
  | mutualPriority first second =>
      obtain ⟨-, ⟨one, known, rfl, forth⟩, other, declared, rfl, back⟩ := marks
      exact wellFormed.oneWay one known other declared forth back
  | noSequence id =>
      obtain ⟨signature, declared, -, empty⟩ := marks
      exact (wellFormed.sound signature declared).nonempty empty
  | shape id flaw =>
      obtain ⟨signature, declared, -, sequence, listed, marks⟩ := marks
      exact marks.not_wellFormed ((wellFormed.sound signature declared).sound sequence listed)

/-- **Validation is exact.**  Preparation succeeds on what is well-formed and on nothing else.  A
flaw that it reports is there, and no flaw is there in what is well-formed.  The search for two
formats with priority over each other may go through the priorities in any order: it finds a pair
in one order if it finds one in another, and it only finds such pairs. -/
theorem prepare_validates (version : String) (formats : List FileFormat)
    (signatures : List Signature) :
    ((∃ library, prepare version formats signatures = .ok library) ↔
      WellFormed formats signatures) ∧
    (∀ flaw, prepare version formats signatures = .error flaw → flaw.Marks formats signatures) ∧
    (∀ flaw : LibraryFlaw, flaw.Marks formats signatures → ¬WellFormed formats signatures) ∧
    ∀ edges : List (UInt32 × UInt32), (∀ edge, edge ∈ edges ↔ edge ∈ priorities formats) →
      (mutualAmong? edges = none ↔ mutualPriority? formats = none) ∧
        ∀ flaw, mutualAmong? edges = some flaw → flaw.Marks formats signatures := by
  refine ⟨?_, fun flaw reported => flaw?_marks (prepare_eq_error_iff.mp reported),
    fun _ => not_wellFormed_of_marks, fun edges same =>
    ⟨?_, fun flaw => mutualAmong?_marks fun edge => (same edge).mp⟩⟩
  · rw [← flaw?_eq_none_iff_wellFormed]
    simp [prepare_eq_ok_iff]
  · simp only [mutualPriority?, mutualAmong?_eq_none_iff, same]

/-- Two formats with priority over each other, of which one lists a signature that is not there. -/
def rivals : List FileFormat :=
  [{ id := 7, name := "left", tag := ⟨"left", by decide⟩, hasPriorityOver := [3] },
    { id := 3, name := "right", tag := ⟨"right", by decide⟩, signatures := [10],
      hasPriorityOver := [7] }]

/-- The rivals are refused for their priorities and not for the signature. -/
theorem prepare_validates_rivals :
    prepare "1" rivals [] = .error (.mutualPriority 3 7) ∧
      (LibraryFlaw.mutualPriority 3 7).Marks rivals [] ∧ ¬WellFormed rivals [] := by
  have reported : prepare "1" rivals [] = .error (.mutualPriority 3 7) := by rfl
  obtain ⟨-, marked, apart, -⟩ := prepare_validates "1" rivals []
  exact ⟨reported, marked _ reported, apart _ (marked _ reported)⟩

end Library

end Discern
