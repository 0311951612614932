import Discern.Proofs.Stream.Buffer
import Discern.Proofs.Stream.Replay

/-!
# Streams that are restored by a rewind

A stream is restored by a rewind if the rewind, where it succeeds, leads back to the first
byte of its content.  A content in memory and a replay buffer are restored, and so are the
decoded views on top of them, whatever was read and whatever limits were given before
(`Reading.rewind_of_ok`).

If the output of every decoder is a function of its input (`Decoder.Computes`), then the
views that a rewind has restored show the composition of these functions
(`Decoder.Computes.shows_foldr`).
-/

namespace Discern

/-- **A stream that shows a content after every rewind that succeeds.** -/
structure StreamKind.Restores {σ : Type} (kind : StreamKind σ) (content : Bytes)
    (left : σ → Bytes → Prop) : Prop extends kind.Follows (fun _ => True) left where
  rewind : ∀ {s rest}, left s rest → (kind.rewind s).1 = .ok () → left (kind.rewind s).2 content
  shows : ∀ {s rest}, left s rest → kind.toReader.Shows s (some rest)

/-- What is left of a content in memory. -/
def Cursor.Left (content : Bytes) (s : Cursor) (rest : Bytes) : Prop :=
  s.content = content ∧ s.rest = rest

/-- A content in memory is shown whole after every rewind. -/
theorem Cursor.restores (content : Bytes) : Cursor.kind.Restores content (Left content) where
  read := by
    rintro s rest ⟨same, -⟩ n
    exact ⟨s.rest.drop n, same, rfl⟩
  limit := fun _ inside => inside
  rewind := by
    rintro s rest ⟨same, -⟩ -
    exact ⟨same, same⟩
  shows := by
    rintro s rest ⟨-, rfl⟩
    exact s.shows

/-- What is left of a content behind a replay buffer.  As long as the buffer has not
overflowed the kept bytes are the beginning of the content. -/
structure Buffered.Left {σ : Type} (reader : Reader σ) (content : Bytes) (b : Buffered σ)
    (rest : Bytes) : Prop where
  inside : b.position ≤ b.kept.size
  ahead : ∃ fresh, reader.Shows b.inner (some fresh) ∧ rest = b.replay ++ fresh ∧
    (b.overflowed = false → content = b.kept.toList ++ fresh)

section Buffered

variable {σ : Type} {reader : Reader σ} {content rest : Bytes} {b : Buffered σ}

/-- Everything is left of what a reader shows that is put behind a buffer. -/
theorem Buffered.left_start {s : σ} (shown : reader.Shows s (some content)) (limit : Option Nat) :
    (start s limit).Left reader content content :=
  ⟨Nat.zero_le _, content, shown, rfl, fun _ => rfl⟩

/-- A buffer shows what it is to replay, then what is left of its reader. -/
theorem Buffered.Left.shows (left : b.Left reader content rest) :
    (kind reader).toReader.Shows b (some rest) := by
  obtain ⟨fresh, shown, rfl, -⟩ := left.ahead
  exact Buffered.shows shown left.inside

/-- At the end of the buffer new bytes are kept or not, and what is left is still fresh. -/
theorem Buffered.Left.keep {bytes fresh : Bytes} (shown : reader.Shows b.inner (some fresh))
    (spent : b.position = b.kept.size)
    (whole : b.overflowed = false → content = b.kept.toList ++ (bytes ++ fresh)) :
    (b.keep bytes).Left reader content fresh where
  inside := Nat.le_of_eq (position_keep bytes spent)
  ahead := by
    refine ⟨fresh, by rwa [inner_keep], ?_, ?_⟩
    · rw [replay_eq_nil (Nat.le_of_eq (position_keep bytes spent).symm), List.nil_append]
    · intro replayable
      obtain ⟨idle, same⟩ | ⟨-, -, same⟩ | ⟨-, -, same⟩ := keep_cases b bytes
      · rw [same] at replayable ⊢
        obtain rfl := idle.resolve_right (Bool.eq_false_iff.mp replayable)
        rw [whole replayable, List.nil_append]
      · rw [same] at replayable ⊢
        rw [whole replayable, Array.toList_appendList, List.append_assoc]
      · rw [same] at replayable
        cases replayable

/-- A request brings the next bytes of what is left, out of the buffer or from its reader. -/
theorem Buffered.Left.read (left : b.Left reader content rest) (n : Nat) :
    ∃ bytes later, (Buffered.read reader n b).1 = .ok bytes ∧ rest = bytes ++ later ∧
      (Buffered.read reader n b).2.Left reader content later := by
  obtain ⟨fresh, shown, rfl, whole⟩ := left.ahead
  obtain ⟨ahead, served⟩ | ⟨spent, bytes, inner, reads, served⟩ |
    ⟨-, fault, inner, reads, served⟩ := read_cases reader n b
  · have ordered : b.position ≤ min (b.position + n) b.kept.size := by omega
    rw [served]
    refine ⟨_, _, rfl, ?_, Nat.min_le_right _ _, fresh, shown, rfl, whole⟩
    rw [← List.append_assoc, ← replay_eq_extract_append b ordered]
  · obtain ⟨got, later, answered, rfl, next, -⟩ := shown.read n
    rw [reads] at answered next
    obtain rfl : bytes = got := Except.ok.inj answered
    rw [served]
    refine ⟨bytes, later, rfl, ?_, .keep next (Nat.le_antisymm left.inside spent) whole⟩
    rw [replay_eq_nil spent, List.nil_append]
  · obtain ⟨got, later, answered, -⟩ := shown.read n
    rw [reads] at answered
    cases answered

/-- A buffer shows the whole content after every rewind that it allows. -/
theorem Buffered.restores (reader : Reader σ) (content : Bytes) :
    (kind reader).Restores content (Left reader content) where
  read := by
    intro b rest left n
    obtain ⟨_, later, -, -, next⟩ := left.read n
    exact ⟨later, next⟩
  limit := fun _ left => ⟨left.inside, left.ahead⟩
  rewind := by
    rintro b rest ⟨inside, fresh, shown, rfl, whole⟩ rewound
    change (Buffered.rewind b).1 = _ at rewound
    change (Buffered.rewind b).2.Left reader content content
    cases overflowed : b.overflowed with
    | true =>
        rw [rewind_of_overflowed overflowed] at rewound
        cases rewound
    | false =>
        rw [rewind_of_kept overflowed]
        exact ⟨Nat.zero_le _, fresh, shown, whole overflowed, whole⟩
  shows := Buffered.Left.shows

end Buffered

section Stack

variable {σ : Type} {kind : StreamKind σ} {content : Bytes} {left : σ → Bytes → Prop}
  {limit : Option Nat} {stack : List Decoder} {stream : ByteStream}

/-- A rewind that succeeds opens all views anew. -/
theorem Reading.rewind_of_ok (restores : kind.Restores content left)
    (reading : Reading kind left limit stack stream) (rewound : stream.rewind.1 = .ok ()) :
    Opened kind content left limit stack stream.rewind.2 := by
  induction reading with
  | base inside => exact .base (restores.rewind inside rewound)
  | @decoded limit decoder stack β below s base budget ih =>
      have view := Opened.decoded (ih rewound)
      rw [← budget] at view
      exact view

end Stack

/-- **The output of a decoder is a function of its input:** however the input is handed to
it and the output is asked for.  The function has no value where the output cannot be read
to its end. -/
def Decoder.Computes (decoder : Decoder) (decode : Bytes → Option Bytes) : Prop :=
  ∀ (base : ByteStream) (content : Bytes), base.Shows (some content) →
    (base.decoded decoder).Shows (decode content)

/-- A decoder that comes to no end where its input comes to none. -/
def Decoder.Strict (decoder : Decoder) : Prop :=
  ∀ base : ByteStream, base.Shows none → (base.decoded decoder).Shows none

namespace Decoder

variable {decode : Decoder → Bytes → Option Bytes} {stack : List Decoder} {base : ByteStream}
  {content : Bytes}

/-- **Views on top of each other show the composition** of what their decoders compute. -/
theorem Computes.shows_foldr
    (computes : ∀ decoder ∈ stack, decoder.Computes (decode decoder))
    (shown : base.Shows (some content)) {inner : Bytes}
    (decoded : stack.foldrM decode content = some inner) :
    (stack.foldr (fun decoder below => below.decoded decoder) base).Shows (some inner) := by
  induction stack generalizing inner with
  | nil =>
      obtain rfl : content = inner := Option.some.inj decoded
      exact shown
  | cons decoder stack ih =>
      obtain ⟨computes, rest⟩ := List.forall_mem_cons.mp computes
      rw [List.foldrM_cons, Option.bind_eq_bind, Option.bind_eq_some_iff] at decoded
      obtain ⟨middle, before, decoded⟩ := decoded
      have view := computes _ middle (ih rest before)
      rwa [decoded] at view

/-- A composition that fails is shown as such by strict decoders. -/
theorem Computes.shows_foldr_none
    (computes : ∀ decoder ∈ stack, decoder.Computes (decode decoder))
    (strict : ∀ decoder ∈ stack.dropLast, decoder.Strict)
    (shown : base.Shows (some content)) (failed : stack.foldrM decode content = none) :
    (stack.foldr (fun decoder below => below.decoded decoder) base).Shows none := by
  induction stack with
  | nil => cases failed
  | cons decoder stack ih =>
      obtain ⟨computes, rest⟩ := List.forall_mem_cons.mp computes
      rw [List.foldrM_cons, Option.bind_eq_bind] at failed
      cases before : stack.foldrM decode content with
      | none =>
          -- Only a decoder below can have failed, so this one is not the last of the list.
          cases stack with
          | nil => cases before
          | cons next stack =>
              rw [List.dropLast_cons_cons] at strict
              obtain ⟨strict, others⟩ := List.forall_mem_cons.mp strict
              exact strict _ (ih rest others before)
      | some middle =>
          rw [before, Option.bind_some] at failed
          have view := computes _ middle (shows_foldr rest shown before)
          rwa [failed] at view

end Decoder

end Discern
