import Discern.Proofs.Stream.Delivery
import Discern.Stream.Buffered

/-!
# Replay buffers

A request to a replay buffer is served from what it keeps, or else it goes on to the reader
(`Buffered.read_cases`).  Whatever the requests and limits are, the buffer shows the kept
bytes that are ahead and then what its reader shows (`Buffered.shows`): a buffer that
overflows loses the bytes behind the position and no others.
-/

namespace Discern

namespace Buffered

variable {σ : Type} {reader : Reader σ}

/-- **The three ways of a request.** -/
theorem read_cases (reader : Reader σ) (n : Nat) (b : Buffered σ) :
    (b.position < b.kept.size ∧ read reader n b =
      (.ok (b.kept.extract b.position (min (b.position + n) b.kept.size)).toList,
        { b with position := min (b.position + n) b.kept.size })) ∨
    (b.kept.size ≤ b.position ∧ ∃ bytes inner, reader.read n b.inner = (.ok bytes, inner) ∧
      read reader n b = (.ok bytes, { b with inner }.keep bytes)) ∨
    (b.kept.size ≤ b.position ∧ ∃ fault inner, reader.read n b.inner = (.error fault, inner) ∧
      read reader n b = (.error fault, { b with inner })) := by
  rw [read]
  by_cases ahead : b.position < b.kept.size
  · exact .inl ⟨ahead, if_pos ahead⟩
  · rw [if_neg ahead]
    right
    cases reads : reader.read n b.inner with
    | mk got inner =>
        cases got with
        | ok bytes => exact .inl ⟨Nat.le_of_not_lt ahead, bytes, inner, rfl, rfl⟩
        | error fault => exact .inr ⟨Nat.le_of_not_lt ahead, fault, inner, rfl, rfl⟩

/-- A buffer that keeps everything goes back to its first byte. -/
theorem rewind_of_kept {b : Buffered σ} (kept : b.overflowed = false) :
    b.rewind = (.ok (), { b with position := 0 }) := by
  rw [rewind, kept, if_neg Bool.false_ne_true]

/-- A buffer that has overflowed refuses to go back, and stays where it is. -/
theorem rewind_of_overflowed {b : Buffered σ} (overflowed : b.overflowed = true) :
    b.rewind = (.error .limitExceeded, b) := by
  rw [rewind, if_pos overflowed]

theorem size_append_bytes (kept : Array UInt8) (bytes : Bytes) :
    (kept ++ bytes).size = kept.size + bytes.length := by
  rw [← Array.length_toList, Array.toList_appendList, List.length_append, Array.length_toList]

/-- **The three ways of keeping:** there is nothing to keep, the bytes fit, or everything is
dropped. -/
theorem keep_cases (b : Buffered σ) (bytes : Bytes) :
    ((bytes = [] ∨ b.overflowed = true) ∧ b.keep bytes = b) ∨
    (b.overflowed = false ∧ b.fits bytes.length = true ∧
      b.keep bytes = { b with kept := b.kept ++ bytes, position := b.kept.size + bytes.length }) ∨
    (b.overflowed = false ∧ b.fits bytes.length = false ∧
      b.keep bytes = { b with kept := #[], position := 0, overflowed := true }) := by
  rw [keep]
  by_cases idle : (bytes.isEmpty || b.overflowed) = true
  · rw [if_pos idle]
    rw [Bool.or_eq_true, List.isEmpty_iff] at idle
    exact .inl ⟨idle, rfl⟩
  · rw [if_neg idle]
    rw [Bool.or_eq_true, not_or, Bool.not_eq_true, Bool.not_eq_true] at idle
    cases fits : b.fits bytes.length with
    | true =>
        rw [if_pos rfl, ← size_append_bytes]
        exact .inr (.inl ⟨idle.2, rfl, rfl⟩)
    | false =>
        rw [if_neg Bool.false_ne_true]
        exact .inr (.inr ⟨idle.2, rfl, rfl⟩)

/-- A buffer read to its end is so too after more is kept, or not. -/
theorem position_keep {b : Buffered σ} (bytes : Bytes) (spent : b.position = b.kept.size) :
    (b.keep bytes).position = (b.keep bytes).kept.size := by
  obtain ⟨-, same⟩ | ⟨-, -, same⟩ | ⟨-, -, same⟩ := keep_cases b bytes
  · rw [same, spent]
  · rw [same]
    exact (size_append_bytes b.kept bytes).symm
  · rw [same]
    rfl

/-- The kept bytes that are still to be handed out. -/
def replay (b : Buffered σ) : Bytes := b.kept.toList.drop b.position

/-- A buffer read to its end has nothing to replay. -/
theorem replay_eq_nil {b : Buffered σ} (spent : b.kept.size ≤ b.position) : b.replay = [] :=
  List.drop_eq_nil_of_le (by rwa [Array.length_toList])

/-- What is to be replayed is a part up to some stop, then what is left from there. -/
theorem replay_eq_extract_append (b : Buffered σ) {stop : Nat} (ordered : b.position ≤ stop) :
    b.replay = (b.kept.extract b.position stop).toList ++ { b with position := stop }.replay := by
  obtain ⟨more, rfl⟩ := Nat.exists_eq_add_of_le ordered
  rw [replay, replay, Array.toList_extract, List.extract_eq_take_drop, Nat.add_sub_cancel_left,
    ← List.drop_drop, List.take_append_drop]

/-- **A replay buffer shows** the kept bytes that are ahead and then what its reader shows. -/
theorem shows {b : Buffered σ} {fresh : Option Bytes} (shown : reader.Shows b.inner fresh)
    (inside : b.position ≤ b.kept.size) :
    (kind reader).toReader.Shows b (fresh.map (b.replay ++ ·)) := by
  have delivery : (kind reader).toReader.Delivery fun b content =>
      b.position ≤ b.kept.size ∧
        ∃ fresh, reader.Shows b.inner fresh ∧ content = fresh.map (b.replay ++ ·) := by
    constructor
    · rintro b content n bytes ⟨inside, fresh, here, rfl⟩ answered
      change (read reader n b).1 = _ at answered
      change (∃ later, _ ∧ (read reader n b).2.position ≤ (read reader n b).2.kept.size ∧
        ∃ fresh, reader.Shows (read reader n b).2.inner fresh ∧
          _ = fresh.map ((read reader n b).2.replay ++ ·)) ∧ _
      obtain ⟨ahead, served⟩ | ⟨spent, got, inner, reads, served⟩ | ⟨-, fault, inner, -, served⟩ :=
        read_cases reader n b
      · rw [served] at answered ⊢
        have ordered : b.position ≤ min (b.position + n) b.kept.size := by omega
        have split := b.replay_eq_extract_append ordered
        obtain rfl := Except.ok.inj answered
        refine ⟨⟨_, ?_, Nat.min_le_right _ _, fresh, here, rfl⟩, fun empty more => ?_⟩
        · rw [Option.map_map, split]
          simp only [Function.comp_def, List.append_assoc]
        · have length := congrArg List.length empty
          rw [Array.length_toList, Array.size_extract, List.length_nil] at length
          omega
      · rw [served] at answered ⊢
        obtain rfl : got = bytes := Except.ok.inj answered
        obtain ⟨⟨later, same, next⟩, ends⟩ := here.ok (congrArg Prod.fst reads)
        rw [reads] at next
        -- Whether the bytes are kept or everything is dropped, nothing is ahead of the position.
        have still := position_keep (b := { b with inner }) got (Nat.le_antisymm inside spent)
        rw [replay_eq_nil spent]
        simp only [List.nil_append, Option.map_id']
        refine ⟨⟨later, same, Nat.le_of_eq still, later, by rwa [inner_keep], ?_⟩, ends⟩
        rw [replay_eq_nil (Nat.le_of_eq still.symm)]
        simp only [List.nil_append, Option.map_id']
      · rw [served] at answered
        cases answered
    · rintro b content n fault ⟨-, fresh, here, rfl⟩ failed
      change (read reader n b).1 = _ at failed
      obtain ⟨-, served⟩ | ⟨-, got, inner, -, served⟩ | ⟨-, other, inner, reads, served⟩ :=
        read_cases reader n b
      · rw [served] at failed
        cases failed
      · rw [served] at failed
        cases failed
      · have broken := (Reader.delivery_shows reader).error here (congrArg Prod.fst reads)
        rw [broken, Option.map_none]
  exact delivery.shows ⟨inside, fresh, shown, rfl⟩

end Buffered

end Discern
