import Discern.Proofs.Stream.Restoration

/-!
# Streams that retain what is within their limit

A stream `Retains` a content if every rewind brings it back as long as no more than the limit
was read since the rewind before.  A content in memory does so, and a replay buffer
(`Buffered.retains`).

A decoder whose budget is the limit of such a stream sees the content up to its budget, and
then its end (`Rationed.Stands.shows`).
-/

namespace Discern

/-- **A stream that retains a content** within its limit.  `stands limit taken s` says that the
limit is in force in state `s`, and how many bytes were taken since the last rewind. -/
structure StreamKind.Retains {σ : Type} (kind : StreamKind σ) (content : Bytes)
    (stands : Option Nat → Nat → σ → Prop) : Prop where
  read : ∀ {s limit taken n}, stands limit taken s →
    (∀ most, limit = some most → taken + n ≤ most) →
    ∃ bytes, (kind.read n s).1 = .ok bytes ∧ bytes <+: content.drop taken ∧
      (bytes = [] → n ≠ 0 → content.drop taken = []) ∧
      stands limit (taken + bytes.length) (kind.read n s).2
  rewind : ∀ {s limit taken}, stands limit taken s →
    (kind.rewind s).1 = .ok () ∧ stands limit 0 (kind.rewind s).2
  limit : ∀ {s limit} next, stands limit 0 s → stands next 0 (kind.limit next s)
  lift : ∀ {s limit taken}, stands limit taken s → stands none taken (kind.limit none s)

theorem drop_add_length {content bytes later : Bytes} {taken : Nat}
    (split : content.drop taken = bytes ++ later) :
    content.drop (taken + bytes.length) = later := by
  rw [← List.drop_drop, split, List.drop_left]

/-- A content in memory where some bytes were taken. -/
def Cursor.Stands (content : Bytes) (_limit : Option Nat) (taken : Nat) (s : Cursor) : Prop :=
  s.content = content ∧ s.rest = content.drop taken

/-- A content in memory is retained under any limit. -/
theorem Cursor.retains (content : Bytes) : kind.Retains content (Stands content) where
  read := by
    rintro s limit taken n ⟨same, rest⟩ -
    have split : content.drop taken = s.rest.take n ++ s.rest.drop n := by
      rw [List.take_append_drop, rest]
    refine ⟨s.rest.take n, rfl, ⟨s.rest.drop n, split.symm⟩, fun empty more => ?_, same, ?_⟩
    · rw [← rest]
      exact (List.take_eq_nil_iff.mp empty).resolve_left more
    · exact (drop_add_length split).symm
  rewind := by
    rintro s limit taken ⟨same, -⟩
    exact ⟨rfl, same, same⟩
  limit := fun _ first => first
  lift := id

section Buffered

variable {σ : Type} {reader : Reader σ} {content : Bytes} {b : Buffered σ} {limit : Option Nat}
  {taken : Nat}

/-- **A replay buffer from which some bytes were taken** since the last rewind, and which can
still be rewound. -/
structure Buffered.Stands (reader : Reader σ) (content : Bytes) (limit : Option Nat)
    (taken : Nat) (b : Buffered σ) : Prop where
  left : b.Left reader content (content.drop taken)
  limited : b.limit = limit
  replayable : b.overflowed = false
  position : b.position = taken

/-- A request within the limit moves the position by what it brings. -/
theorem Buffered.read_within (reader : Reader σ) {n : Nat} (replayable : b.overflowed = false)
    (inside : b.position ≤ b.kept.size)
    (within : ∀ most, b.limit = some most → b.position + n ≤ most) :
    (read reader n b).2.limit = b.limit ∧ (read reader n b).2.overflowed = false ∧
      (read reader n b).2.position = b.position + Discern.taken (read reader n b).1 := by
  have answered := taken_read_le reader n b
  obtain ⟨ahead, served⟩ | ⟨spent, bytes, inner, -, served⟩ | ⟨-, fault, inner, -, served⟩ :=
    read_cases reader n b
  · rw [served]
    refine ⟨rfl, replayable, ?_⟩
    simp only [taken_ok, Array.length_toList, Array.size_extract]
    omega
  · rw [served] at answered ⊢
    rw [taken_ok] at answered ⊢
    obtain ⟨idle, same⟩ | ⟨-, -, same⟩ | ⟨-, full, -⟩ := keep_cases { b with inner } bytes
    · obtain rfl := idle.resolve_right (Bool.eq_false_iff.mp replayable)
      rw [same]
      exact ⟨rfl, replayable, rfl⟩
    · rw [same]
      refine ⟨rfl, replayable, ?_⟩
      dsimp only
      omega
    · rw [fits] at full
      dsimp only at full
      cases limited : b.limit with
      | none =>
          rw [limited] at full
          cases full
      | some most =>
          -- Past the kept bytes the position is their number, so the limit leaves room.
          have room := within most limited
          rw [limited] at full
          have more : ¬ b.kept.size + bytes.length ≤ most := of_decide_eq_false full
          omega
  · rw [served]
    exact ⟨rfl, replayable, rfl⟩

/-- A replay buffer retains its content as long as requests stay within the limit. -/
theorem Buffered.retains (reader : Reader σ) (content : Bytes) :
    (kind reader).Retains content (Stands reader content) where
  read := by
    rintro b limit taken n ⟨left, rfl, replayable, rfl⟩ within
    obtain ⟨bytes, later, answered, split, next⟩ := left.read n
    obtain ⟨limited, still, moved⟩ := read_within reader replayable left.inside within
    rw [answered, taken_ok] at moved
    refine ⟨bytes, answered, ⟨later, split.symm⟩, fun empty more => ?_, ?_⟩
    · exact Option.some.inj ((left.shows.ok answered).2 empty more)
    · refine ⟨?_, limited, still, moved⟩
      rw [drop_add_length split]
      exact next
  rewind := by
    rintro b limit taken ⟨left, limited, replayable, -⟩
    have back : (kind reader).rewind b = _ := rewind_of_kept replayable
    have again := (restores reader content).rewind left (congrArg Prod.fst back)
    rw [back] at again ⊢
    exact ⟨rfl, again, limited, replayable, rfl⟩
  limit := by
    rintro b limit next ⟨left, -, replayable, first⟩
    exact ⟨⟨left.inside, left.ahead⟩, rfl, replayable, first⟩
  lift := by
    rintro b limit taken ⟨left, -, replayable, position⟩
    exact ⟨⟨left.inside, left.ahead⟩, rfl, replayable, position⟩

end Buffered

section Rationed

variable {σ : Type} {kind : StreamKind σ} {content : Bytes}
  {stands : Option Nat → Nat → σ → Prop} {budget : Option Nat} {input : Rationed σ}

/-- **An input that is within its budget,** which is the limit of the stream below. -/
structure Rationed.Stands (stands : Option Nat → Nat → σ → Prop) (budget : Option Nat)
    (input : Rationed σ) : Prop where
  given : input.budget = budget
  base : stands budget input.consumed input.base
  spent : ∀ most, budget = some most → input.consumed ≤ most

/-- The beginning of a content that a budget allows. -/
def Rationed.window (budget : Option Nat) (content : Bytes) : Bytes :=
  budget.elim content content.take

/-- What a budget allows is a beginning of the content. -/
theorem Rationed.window_prefix (budget : Option Nat) (content : Bytes) :
    window budget content <+: content := by
  cases budget with
  | none => exact List.prefix_rfl
  | some most => exact List.take_prefix most content

namespace Rationed.Stands

/-- What is consumed and the next allowance are within the budget together. -/
theorem within (stood : input.Stands stands budget) (n : Nat) :
    ∀ most, budget = some most → input.consumed + input.allowance n ≤ most := by
  rintro most rfl
  have spent := stood.spent most rfl
  rw [allowance, stood.given]
  dsimp only
  omega

variable (retains : kind.Retains content stands)
include retains

/-- A request moves an input on within its budget. -/
theorem read (stood : input.Stands stands budget) (n : Nat) :
    (Rationed.read kind.toReader n input).2.Stands stands budget := by
  by_cases spent : input.allowance n = 0 ∧ n ≠ 0
  · rw [read_of_spent spent]
    exact ⟨stood.given, stood.base, stood.spent⟩
  · obtain ⟨bytes, answered, -, -, next⟩ := retains.read stood.base (stood.within n)
    have short := kind.taken_le (input.allowance n) input.base
    rw [answered, taken_ok] at short
    rw [read_of_allowed spent, answered, taken_ok]
    refine ⟨stood.given, next, fun most limited => ?_⟩
    have room := stood.within n most limited
    dsimp only
    omega

/-- What is answered is the beginning of what the budget still allows, and nothing is answered
only behind it. -/
theorem read_ok (stood : input.Stands stands budget) (n : Nat) :
    ∃ bytes, (Rationed.read kind.toReader n input).1 = .ok bytes ∧
      (window budget content).drop input.consumed =
        bytes ++ (window budget content).drop (Rationed.read kind.toReader n input).2.consumed ∧
      (bytes = [] → n ≠ 0 → (window budget content).drop input.consumed = []) := by
  by_cases spent : input.allowance n = 0 ∧ n ≠ 0
  · rw [read_of_spent spent]
    refine ⟨[], rfl, rfl, fun _ _ => ?_⟩
    cases limited : budget with
    | none =>
        rw [allowance, stood.given, limited] at spent
        exact absurd spent.1 spent.2
    | some most =>
        rw [allowance, stood.given, limited] at spent
        have beyond : (content.take most).length ≤ input.consumed := by
          rw [List.length_take]
          dsimp only at spent
          omega
        exact List.drop_eq_nil_of_le beyond
  · obtain ⟨bytes, answered, lead, ends, -⟩ := retains.read stood.base (stood.within n)
    have short := kind.taken_le (input.allowance n) input.base
    rw [answered, taken_ok] at short
    rw [read_of_allowed spent, answered, taken_ok]
    have inside : bytes <+: (window budget content).drop input.consumed := by
      cases limited : budget with
      | none => exact lead
      | some most =>
          have room := stood.within n most limited
          change bytes <+: (content.take most).drop input.consumed
          rw [List.drop_take, List.prefix_take_iff]
          exact ⟨lead, by omega⟩
    obtain ⟨later, split⟩ := inside
    refine ⟨bytes, rfl, ?_, fun empty more => ?_⟩
    · rw [drop_add_length split.symm, split]
    · have behind := ends empty fun nothing => spent ⟨nothing, more⟩
      cases budget with
      | none => exact behind
      | some most =>
          change (content.take most).drop input.consumed = []
          rw [List.drop_take, behind, List.take_nil]

/-- **A decoder within its budget sees** the content up to it, and then its end. -/
theorem shows (stood : input.Stands stands budget) :
    (Rationed.reader kind.toReader).Shows input
      (some ((window budget content).drop input.consumed)) := by
  have delivery : (Rationed.reader kind.toReader).Delivery fun input shown =>
      input.Stands stands budget ∧ shown = some ((window budget content).drop input.consumed) := by
    constructor
    · rintro input shown n bytes ⟨stood, rfl⟩ answered
      obtain ⟨got, same, split, ends⟩ := stood.read_ok retains n
      obtain rfl : bytes = got := Except.ok.inj (answered.symm.trans same)
      refine ⟨⟨some _, congrArg some split, stood.read retains n, rfl⟩, fun empty more => ?_⟩
      rw [ends empty more]
    · rintro input shown n fault ⟨stood, -⟩ failed
      obtain ⟨got, same, -⟩ := stood.read_ok retains n
      cases failed.symm.trans same
  exact delivery.shows ⟨stood, rfl⟩

end Rationed.Stands

end Rationed

end Discern
