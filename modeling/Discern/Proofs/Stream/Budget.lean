import Discern.Decoder.Registry
import Discern.Proofs.Stream.Buffer
import Discern.Proofs.Stream.Replay

/-!
# Budgets keep a replay buffer within its limit

A limit on decoded views that stand on a replay buffer becomes a budget for each of them,
and the budget of the lowest is the limit of the buffer.  No view takes more from below than
its budget allows, so the buffer never has to give up what it keeps: whatever is read from
the views, a rewind succeeds (`Unread.thrifty_after`).

The invariant is `Thrifty`.  Its part about the buffer is that the buffer's position is what
the lowest view has taken (`Buffered.InStep`); a request that the budget allows is then
within the limit.
-/

namespace Discern

/-- **An input of which no more was taken than its budget.** -/
structure Rationed.Within {β : Type} (input : Rationed β) (budget : Nat) : Prop where
  given : input.budget = some budget
  spent : input.consumed ≤ budget

/-- **A replay buffer that is in step** with a view that has taken `consumed` bytes from it
since the last rewind, under a limit on what is kept.  Before that it has `held` bytes. -/
structure Buffered.InStep {σ : Type} (b : Buffered σ) (held budget consumed : Nat) : Prop where
  limited : b.limit = some budget
  replayable : b.overflowed = false
  position : b.position = consumed
  inside : b.position ≤ b.kept.size
  bounded : b.kept.size ≤ max held budget

section Step

variable {β σ : Type} {input : Rationed β} {b : Buffered σ} {held budget consumed n : Nat}

/-- What a request is allowed stays within the budget. -/
theorem Rationed.Within.allowance_le (within : input.Within budget) (n : Nat) :
    input.consumed + input.allowance n ≤ budget := by
  have spent := within.spent
  rw [allowance, within.given]
  dsimp only
  omega

/-- A request keeps an input within its budget, since it brings no more than allowed. -/
theorem Rationed.Within.read (within : input.Within budget) (below : Reader β) (n : Nat) :
    (Rationed.read below n input).2.Within budget := by
  by_cases spent : input.allowance n = 0 ∧ n ≠ 0
  · rw [read_of_spent spent]
    exact ⟨within.given, within.spent⟩
  · rw [read_of_allowed spent]
    have allowed := within.allowance_le n
    have answered := below.taken_le (input.allowance n) input.base
    exact ⟨within.given, by dsimp only; omega⟩

/-- A request that the budget allows does not overflow the buffer. -/
theorem Buffered.InStep.read (inStep : b.InStep held budget consumed) (reader : Reader σ)
    (allowed : consumed + n ≤ budget) :
    (Buffered.read reader n b).2.InStep held budget
      (consumed + taken (Buffered.read reader n b).1) := by
  obtain ⟨limited, replayable, position, inside, bounded⟩ := inStep
  have answered := taken_read_le reader n b
  obtain ⟨ahead, served⟩ | ⟨spent, bytes, inner, -, served⟩ | ⟨-, fault, inner, -, served⟩ :=
    read_cases reader n b
  · rw [served]
    refine ⟨limited, replayable, ?_, Nat.min_le_right _ _, bounded⟩
    simp only [taken_ok, Array.length_toList, Array.size_extract]
    omega
  · rw [served] at answered ⊢
    rw [taken_ok] at answered ⊢
    obtain ⟨idle, same⟩ | ⟨-, -, same⟩ | ⟨-, full, -⟩ := keep_cases { b with inner } bytes
    · obtain rfl := idle.resolve_right (Bool.eq_false_iff.mp replayable)
      rw [same]
      exact ⟨limited, replayable, position, inside, bounded⟩
    · rw [same]
      refine ⟨limited, replayable, ?_, ?_, ?_⟩
      · dsimp only
        omega
      · exact Nat.le_of_eq (size_append_bytes b.kept bytes).symm
      · have longer := size_append_bytes b.kept bytes
        change (b.kept ++ bytes).size ≤ max held budget
        omega
    · -- Past the kept bytes the position is their number, so the budget leaves room.
      have room : b.kept.size + bytes.length ≤ budget := by omega
      rw [fits, limited] at full
      exact absurd room (of_decide_eq_false full)
  · rw [served]
    exact ⟨limited, replayable, position, inside, bounded⟩

/-- A request of the lowest view keeps the buffer below in step with it. -/
theorem Buffered.InStep.read_input {reader : Reader σ} {input : Rationed (Buffered σ)}
    (inStep : input.base.InStep held budget input.consumed) (within : input.Within budget)
    (n : Nat) :
    (Rationed.read (kind reader).toReader n input).2.Within budget ∧
      (Rationed.read (kind reader).toReader n input).2.base.InStep held budget
        (Rationed.read (kind reader).toReader n input).2.consumed := by
  refine ⟨within.read _ n, ?_⟩
  by_cases spent : input.allowance n = 0 ∧ n ≠ 0
  · rw [Rationed.read_of_spent spent]
    exact inStep
  · rw [Rationed.read_of_allowed spent]
    exact inStep.read reader (within.allowance_le n)

end Step

section Stack

variable {σ : Type} (reader : Reader σ) (held : Nat)

/-- **Decoded views of which nothing has been read,** on a replay buffer at its first byte
that can be replayed and keeps `held` bytes.  The views may have any limits. -/
inductive Unread : List Decoder → ByteStream → Prop
  | base {b : Buffered σ} (first : b.position = 0) (replayable : b.overflowed = false)
      (keeps : b.kept.size = held) : Unread [] ⟨Buffered.kind reader, b⟩
  | decoded {decoder : Decoder} {stack : List Decoder} {β : Type} {below : StreamKind β} {s : β}
      {budget : Option Nat} (base : Unread stack ⟨below, s⟩) :
      Unread (decoder :: stack) ⟨Decoded.kind decoder below, ⟨⟨s, budget, 0, false⟩, none⟩⟩

/-- **Decoded views within their budgets** under a limit on the whole.  Each has taken no more
from below than its share of the limit, and the replay buffer below them all is in step. -/
inductive Thrifty : Nat → List Decoder → ByteStream → Prop
  | lowest {limit : Nat} {decoder : Decoder} {s : Decoded decoder.machine.State (Buffered σ)}
      (within : s.input.Within (decoder.outerLimit limit))
      (inStep : s.input.base.InStep held (decoder.outerLimit limit) s.input.consumed) :
      Thrifty limit [decoder] ⟨Decoded.kind decoder (Buffered.kind reader), s⟩
  | decoded {limit : Nat} {decoder : Decoder} {stack : List Decoder} {β : Type}
      {below : StreamKind β} {s : Decoded decoder.machine.State β}
      (within : s.input.Within (decoder.outerLimit limit))
      (base : Thrifty (decoder.outerLimit limit) stack ⟨below, s.input.base⟩) :
      Thrifty limit (decoder :: stack) ⟨Decoded.kind decoder below, s⟩

variable {reader held} {limit : Nat} {stack : List Decoder} {stream : ByteStream}

/-- A limit changes budgets, and reads nothing. -/
theorem Unread.setLimit (unread : Unread reader held stack stream) (limit : Option Nat) :
    Unread reader held stack (stream.setLimit limit) := by
  induction unread generalizing limit with
  | base first replayable keeps => exact .base first replayable keeps
  | decoded _ ih => exact .decoded (ih _)

/-- Views of which nothing has been read can be rewound, and nothing is read by that. -/
theorem Unread.rewind (unread : Unread reader held stack stream) :
    stream.rewind.1 = .ok () ∧ Unread reader held stack stream.rewind.2 := by
  induction unread with
  | @base b first replayable keeps =>
      have back : (Buffered.kind reader).rewind b = _ := Buffered.rewind_of_kept replayable
      rw [ByteStream.rewind, back]
      exact ⟨rfl, .base rfl replayable keeps⟩
  | @decoded decoder stack β below s budget _ ih =>
      obtain ⟨rewound, again⟩ := ih
      exact ⟨rewound, .decoded again⟩

/-- Every view gets its budget, of which nothing is spent. -/
theorem Unread.thrifty (unread : Unread reader held stack stream) (some_view : stack ≠ [])
    (limit : Nat) :
    Thrifty reader held limit stack (stream.setLimit (some limit)) := by
  induction unread generalizing limit with
  | base => exact absurd rfl some_view
  | @decoded decoder stack β below s budget base ih =>
      have within : Rationed.Within (⟨below.limit (some (decoder.outerLimit limit)) s,
          some (decoder.outerLimit limit), 0, false⟩ : Rationed β) (decoder.outerLimit limit) :=
        ⟨rfl, Nat.zero_le _⟩
      cases base with
      | @base b first replayable keeps =>
          refine .lowest within ⟨rfl, replayable, first, ?_, ?_⟩
          · change b.position ≤ b.kept.size
            omega
          · change b.kept.size ≤ max held (decoder.outerLimit limit)
            omega
      | decoded base => exact .decoded within (ih (List.cons_ne_nil _ _) _)

/-- **Reading keeps within the budgets.** -/
theorem Thrifty.read (thrifty : Thrifty reader held limit stack stream) (n : Nat) :
    Thrifty reader held limit stack (stream.read n).2 := by
  induction stack generalizing limit stream n with
  | nil => cases thrifty
  | cons decoder stack ih =>
      cases thrifty with
      | @lowest _ _ s within inStep =>
          obtain ⟨within, inStep⟩ := Decoded.read_preserves_input decoder
            (Buffered.kind reader).toReader
            (fun input => input.Within (decoder.outerLimit limit) ∧
              input.base.InStep held (decoder.outerLimit limit) input.consumed)
            (fun n input kept => kept.2.read_input kept.1 n) n s ⟨within, inStep⟩
          exact .lowest within inStep
      | @decoded _ _ _ β below s within base =>
          have reads : ∀ n (input : Rationed β), Thrifty reader held (decoder.outerLimit limit)
              stack ⟨below, input.base⟩ → Thrifty reader held (decoder.outerLimit limit) stack
                ⟨below, (Rationed.read below.toReader n input).2.base⟩ := by
            intro n input base
            by_cases spent : input.allowance n = 0 ∧ n ≠ 0
            · rw [Rationed.read_of_spent spent]
              exact base
            · rw [Rationed.read_of_allowed spent]
              exact ih base _
          obtain ⟨within, base⟩ := Decoded.read_preserves_input decoder below.toReader
            (fun input => input.Within (decoder.outerLimit limit) ∧
              Thrifty reader held (decoder.outerLimit limit) stack ⟨below, input.base⟩)
            (fun n input kept => ⟨kept.1.read below.toReader n, reads n input kept.2⟩)
            n s ⟨within, base⟩
          exact .decoded within base

/-- A view is rewound by rewinding below and forgetting its work and its count. -/
theorem ByteStream.rewind_decoded {β : Type} (decoder : Decoder) (below : StreamKind β)
    (s : Decoded decoder.machine.State β) :
    (⟨Decoded.kind decoder below, s⟩ : ByteStream).rewind = ((below.rewind s.input.base).1,
      ⟨Decoded.kind decoder below,
        ⟨⟨(below.rewind s.input.base).2, s.input.budget, 0, false⟩, none⟩⟩) := rfl

/-- **A rewind succeeds** and leads back to unread views, still within their budgets. -/
theorem Thrifty.rewind (thrifty : Thrifty reader held limit stack stream) :
    stream.rewind.1 = .ok () ∧ Thrifty reader held limit stack stream.rewind.2 ∧
      ∃ kept, Unread reader kept stack stream.rewind.2 := by
  induction thrifty with
  | @lowest limit decoder s within inStep =>
      have back : (Buffered.kind reader).rewind s.input.base = _ :=
        Buffered.rewind_of_kept inStep.replayable
      rw [ByteStream.rewind_decoded, back]
      refine ⟨rfl, .lowest ⟨within.given, Nat.zero_le _⟩ ?_, _, .decoded (.base rfl ?_ rfl)⟩
      · exact ⟨inStep.limited, inStep.replayable, rfl, Nat.zero_le _, inStep.bounded⟩
      · exact inStep.replayable
  | @decoded limit decoder stack β below s within base ih =>
      obtain ⟨rewound, again, kept, unread⟩ := ih
      exact ⟨rewound, .decoded ⟨within.given, Nat.zero_le _⟩ again, kept, .decoded unread⟩

/-- **One use of a stream:** a request for bytes, or a rewind. -/
inductive Use where
  | read (amount : Nat)
  | rewind

/-- The stream after a use of it. -/
def Use.apply : Use → ByteStream → ByteStream
  | read amount, stream => (stream.read amount).2
  | rewind, stream => stream.rewind.2

/-- Any uses keep views within their budgets; the induction is on the uses. -/
theorem Thrifty.use (thrifty : Thrifty reader held limit stack stream) (uses : List Use) :
    Thrifty reader held limit stack (uses.foldl (fun stream use => use.apply stream) stream) := by
  induction uses generalizing stream with
  | nil => exact thrifty
  | cons use uses ih =>
      cases use with
      | read amount => exact ih (thrifty.read amount)
      | rewind => exact ih thrifty.rewind.2.1

/-- **Decoded views under a limit never spend the replay buffer** that they stand on.
Whatever is read from them and however often they are rewound, the next rewind succeeds; each
view has taken no more than its budget since the last one, and the buffer keeps no more than
it held before or its limit allows. -/
theorem Unread.thrifty_after (unread : Unread reader held stack stream) (some_view : stack ≠ [])
    (limit : Nat) (uses : List Use) :
    (uses.foldl (fun stream use => use.apply stream)
        (stream.setLimit (some limit))).rewind.1 = .ok () ∧
      Thrifty reader held limit stack (uses.foldl (fun stream use => use.apply stream)
        (stream.setLimit (some limit))) := by
  have thrifty := (unread.thrifty some_view limit).use uses
  exact ⟨thrifty.rewind.1, thrifty⟩

/-- Gzip in base64, on a buffer that keeps the first two symbols. -/
def keptViews : ByteStream :=
  ((⟨Buffered.kind Cursor.kind.toReader,
    ⟨⟨[0x48, 0x34, 0x73, 0x49], [0x73, 0x49]⟩, #[0x48, 0x34], 0, none, false⟩⟩ :
      ByteStream).decoded .base64).decoded .gzip

/-- Under a limit of one byte the two views can be rewound after three uses. -/
theorem Unread.thrifty_after_keptViews :
    Unread Cursor.kind.toReader 2 [.gzip, .base64] keptViews ∧
      [Decoder.gzip, Decoder.base64] ≠ [] ∧
      ([Use.read 1, .rewind, .read 5].foldl (fun stream use => use.apply stream)
        (keptViews.setLimit (some 1))).rewind.1 = .ok () ∧
      Thrifty Cursor.kind.toReader 2 1 [.gzip, .base64]
        ([Use.read 1, .rewind, .read 5].foldl (fun stream use => use.apply stream)
          (keptViews.setLimit (some 1))) := by
  have unread : Unread Cursor.kind.toReader 2 [.gzip, .base64] keptViews :=
    .decoded (.decoded (.base rfl rfl rfl))
  exact ⟨unread, List.cons_ne_nil _ _, unread.thrifty_after (List.cons_ne_nil _ _) 1 _⟩

end Stack

end Discern
