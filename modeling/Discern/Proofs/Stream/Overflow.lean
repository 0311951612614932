import Discern.Proofs.Stream.Restoration

/-!
# When a replay buffer overflows

Without a limit a replay buffer never overflows, and its content can be replayed
(`Buffered.replays`).  Under a limit it can be rewound as long as no more than the limit was
read from it since its first byte, in whatever pieces (`Buffered.Tracked.overflowed_iff`).
-/

namespace Discern

/-- Two readings of one reader show the same. -/
theorem Reader.Shows.unique {σ : Type} {reader : Reader σ} {s : σ} {one other : Bytes}
    (first : reader.Shows s (some one)) (second : reader.Shows s (some other)) : one = other := by
  have read := (first.readUpTo none).1
  rw [(second.readUpTo none).1] at read
  exact (Except.ok.inj read).symm

namespace Buffered

variable {σ : Type} {reader : Reader σ} {content rest : Bytes} {b : Buffered σ} {limit : Nat}

/-- A buffer without a limit keeps all bytes and never overflows. -/
theorem keep_of_unlimited (unlimited : b.limit = none) (replayable : b.overflowed = false)
    (bytes : Bytes) :
    (b.keep bytes).limit = none ∧ (b.keep bytes).overflowed = false := by
  obtain ⟨-, same⟩ | ⟨-, -, same⟩ | ⟨-, full, -⟩ := keep_cases b bytes
  · rw [same]
    exact ⟨unlimited, replayable⟩
  · rw [same]
    exact ⟨unlimited, replayable⟩
  · rw [fits, unlimited] at full
    cases full

/-- **A buffer without a limit** replays its content. -/
theorem replays (reader : Reader σ) (content : Bytes) {limits : Option Nat → Prop}
    (unlimited : ∀ limit, limits limit → limit = none) :
    (kind reader).Replays limits content fun b rest =>
      b.Left reader content rest ∧ b.limit = none ∧ b.overflowed = false where
  read := by
    rintro b rest ⟨left, free, replayable⟩ n
    obtain ⟨bytes, later, answered, split, next⟩ := left.read n
    refine ⟨bytes, later, answered, split, next, ?_⟩
    change (Buffered.read reader n b).2.limit = none ∧
      (Buffered.read reader n b).2.overflowed = false
    obtain ⟨-, served⟩ | ⟨-, got, inner, -, served⟩ | ⟨-, fault, inner, -, served⟩ :=
      read_cases reader n b
    · rw [served]
      exact ⟨free, replayable⟩
    · rw [served]
      exact keep_of_unlimited (b := { b with inner }) free replayable got
    · rw [served]
      exact ⟨free, replayable⟩
  rewind := by
    rintro b rest ⟨left, free, replayable⟩
    have back : (kind reader).rewind b = _ := rewind_of_kept replayable
    have again := (restores reader content).rewind left (congrArg Prod.fst back)
    rw [back] at again ⊢
    exact ⟨rfl, again, free, replayable⟩
  limit := by
    rintro b rest limit given ⟨left, -, replayable⟩
    exact ⟨⟨left.inside, left.ahead⟩, unlimited limit given, replayable⟩

/-- **What is left of a content behind a buffer with a limit,** which keeps no more than the
limit, and has overflowed only where more was read. -/
structure Tracked (reader : Reader σ) (content : Bytes) (limit : Nat) (b : Buffered σ)
    (rest : Bytes) : Prop where
  left : b.Left reader content rest
  limited : b.limit = some limit
  bounded : b.overflowed = false → b.kept.size ≤ limit
  beyond : b.overflowed = true → limit + rest.length < content.length

/-- A request keeps track: it overflows the buffer only where it goes beyond the limit. -/
theorem Tracked.read (tracked : b.Tracked reader content limit rest) (n : Nat) :
    ∃ later, (Buffered.read reader n b).2.Tracked reader content limit later := by
  obtain ⟨left, limited, bounded, beyond⟩ := tracked
  obtain ⟨bytes, later, answered, split, next⟩ := left.read n
  have shorter : b.overflowed = true → limit + later.length < content.length := by
    intro overflowed
    have before := beyond overflowed
    rw [split, List.length_append] at before
    omega
  refine ⟨later, ?_⟩
  obtain ⟨-, served⟩ | ⟨spent, got, inner, -, served⟩ | ⟨-, fault, inner, -, served⟩ :=
    read_cases reader n b
  · rw [served] at next ⊢
    exact ⟨next, limited, bounded, shorter⟩
  · rw [served] at answered next ⊢
    obtain rfl : got = bytes := Except.ok.inj answered
    obtain ⟨-, same⟩ | ⟨replayable, fits, same⟩ | ⟨replayable, full, same⟩ :=
      keep_cases { b with inner } got
    · rw [same] at next ⊢
      exact ⟨next, limited, bounded, shorter⟩
    · rw [same] at next ⊢
      refine ⟨next, limited, fun _ => ?_, shorter⟩
      rw [Buffered.fits, limited] at fits
      rw [size_append_bytes]
      exact of_decide_eq_true fits
    · rw [same] at next ⊢
      refine ⟨next, limited, fun _ => Nat.zero_le _, fun _ => ?_⟩
      rw [Buffered.fits, limited] at full
      -- Up to here everything was kept, so what was read is what is kept and what comes in.
      have more : ¬ b.kept.size + got.length ≤ limit := of_decide_eq_false full
      obtain ⟨fresh, -, ahead, whole⟩ := left.ahead
      rw [replay_eq_nil spent, List.nil_append, split] at ahead
      have size := b.kept.length_toList
      rw [whole replayable, ← ahead, List.length_append, List.length_append]
      omega
  · rw [served] at answered
    cases answered

/-- **A buffer with a limit has overflowed** exactly if more than the limit was read. -/
theorem Tracked.overflowed_iff (tracked : b.Tracked reader content limit rest) :
    b.overflowed = true ↔ limit + rest.length < content.length := by
  refine ⟨tracked.beyond, fun more => ?_⟩
  by_contra replayable
  rw [Bool.not_eq_true] at replayable
  obtain ⟨fresh, -, same, whole⟩ := tracked.left.ahead
  have kept := tracked.bounded replayable
  have content_length := congrArg List.length (whole replayable)
  have rest_length := congrArg List.length same
  rw [List.length_append] at content_length rest_length
  have size := b.kept.length_toList
  omega

/-- At the first byte nothing was read, so the buffer has not overflowed. -/
theorem Tracked.replayable (tracked : b.Tracked reader content limit content) :
    b.overflowed = false := by
  rw [← Bool.not_eq_true, tracked.overflowed_iff]
  omega

/-- A rewind of a buffer that has not overflowed leaves the whole content. -/
theorem Tracked.rewind (tracked : b.Tracked reader content limit rest)
    (replayable : b.overflowed = false) :
    { b with position := 0 }.Tracked reader content limit content := by
  have back : (kind reader).rewind b = _ := rewind_of_kept replayable
  have again := (restores reader content).rewind tracked.left (congrArg Prod.fst back)
  rw [back] at again
  refine ⟨again, tracked.limited, tracked.bounded, fun overflowed => ?_⟩
  cases replayable.symm.trans overflowed

/-- Reading up to a bound leaves what lies behind the bound. -/
theorem Tracked.readUpTo (tracked : b.Tracked reader content limit rest) (bound : Option Nat) :
    ((kind reader).readUpTo bound b).2.Tracked reader content limit (bound.elim [] rest.drop) := by
  obtain ⟨later, after⟩ := Reader.readUpTo_preserves
    (fun b => ∃ rest, b.Tracked reader content limit rest) (kind reader).toReader
    (fun n b ⟨rest, tracked⟩ => tracked.read n) bound b ⟨rest, tracked⟩
  have shown := (tracked.left.shows.readUpTo bound).2
  rwa [shown.unique after.left.shows]

/-- **A look up to a bound,** from the first byte on, is judged by what it sees. -/
theorem Tracked.judge (tracked : b.Tracked reader content limit content) (bound : Option Nat)
    (verdict : Bytes → FormatId) :
    ∃ after : Buffered σ, (Probe.judge bound verdict).run ⟨kind reader, b⟩ =
        (.ok (verdict (bound.elim content content.take)), ⟨kind reader, after⟩) ∧
      (limit < (bound.elim content content.take).length →
        after.rewind = (.error .limitExceeded, after)) ∧
      ((bound.elim content content.take).length ≤ limit →
        after.rewind = (.ok (), { after with position := 0 }) ∧
          { after with position := 0 }.Tracked reader content limit content) := by
  have seen := (tracked.left.shows.readUpTo bound).1
  have after := tracked.readUpTo bound
  have split : content.length =
      (bound.elim content content.take).length + (bound.elim [] content.drop).length := by
    cases bound with
    | none => rfl
    | some bound => rw [← List.length_append, Option.elim_some, Option.elim_some,
        List.take_append_drop]
  refine ⟨((kind reader).readUpTo bound b).2, ?_, fun more => ?_, fun enough => ?_⟩
  · change (((kind reader).readUpTo bound b).1.map verdict, _) = _
    rw [seen]
    rfl
  · exact rewind_of_overflowed (after.overflowed_iff.mpr (by omega))
  · have replayable : ((kind reader).readUpTo bound b).2.overflowed = false := by
      rw [← Bool.not_eq_true, after.overflowed_iff]
      omega
    exact ⟨rewind_of_kept replayable, after.rewind replayable⟩

end Buffered

end Discern
