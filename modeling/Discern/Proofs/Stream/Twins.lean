import Discern.Proofs.Stream.LimitedView

/-!
# Streams that answer alike

Two streams are `Twins` if they answer alike, now and after every rewind, whatever has been read
from either of them in between.  A content in memory is a twin of itself: what was read of it
does not show after a rewind.  A replay buffer is not, because it hands out the bytes that it
kept in other pieces than its reader did.

Decoded views on twins are twins (`ByteStream.Twins.decoded`), so no decoder can tell what was
read before a rewind.
-/

namespace Discern

/-- **Streams that come to the same after a rewind.**  States that are `same` answer alike; those
that are `akin` differ in what was read from them only, and are the same after a rewind. -/
structure StreamKind.Recalls {σ : Type} (kind : StreamKind σ) (limits : Option Nat → Prop)
    (akin same : σ → σ → Prop) : Prop where
  symm : ∀ {s t}, akin s t → akin t s
  read : ∀ {s t}, akin s t → ∀ n, akin (kind.read n s).2 t
  limit : ∀ {s t limit}, limits limit → akin s t → akin (kind.limit limit s) (kind.limit limit t)
  rewind : ∀ {s t}, akin s t →
    (kind.rewind s).1 = .ok () ∧ same (kind.rewind s).2 (kind.rewind t).2
  akin_of_same : ∀ {s t}, same s t → akin s t
  same_read : ∀ {s t}, same s t → ∀ n,
    (kind.read n s).1 = (kind.read n t).1 ∧ same (kind.read n s).2 (kind.read n t).2
  same_limit : ∀ {s t limit}, limits limit → same s t →
    same (kind.limit limit s) (kind.limit limit t)

/-- **Streams that answer alike,** now and after every rewind. -/
inductive ByteStream.Twins (limits : Option Nat → Prop) : ByteStream → ByteStream → Prop
  | intro {σ : Type} {kind : StreamKind σ} {akin same : σ → σ → Prop} {s t : σ}
      (recalls : kind.Recalls limits akin same) (here : same s t) : Twins limits ⟨kind, s⟩ ⟨kind, t⟩

/-- A content in memory is the same after every rewind. -/
theorem Cursor.recalls (limits : Option Nat → Prop) :
    kind.Recalls limits (·.content = ·.content) Eq where
  symm := Eq.symm
  read := fun akin _ => akin
  limit := fun _ akin => akin
  rewind := by
    intro s t akin
    exact ⟨rfl, congrArg start akin⟩
  akin_of_same := congrArg Cursor.content
  same_read := by
    rintro s _ rfl n
    exact ⟨rfl, rfl⟩
  same_limit := fun _ same => same

/-- A content in memory is its own twin. -/
theorem Cursor.twins (limits : Option Nat → Prop) (s : Cursor) :
    ByteStream.Twins limits ⟨kind, s⟩ ⟨kind, s⟩ :=
  .intro (recalls limits) rfl

/-- **Inputs alike** but for the streams below, which are related. -/
structure Rationed.Alike {β γ : Type} (related : β → γ → Prop) (input : Rationed β)
    (other : Rationed γ) : Prop where
  base : related input.base other.base
  budget : input.budget = other.budget
  consumed : input.consumed = other.consumed
  truncated : input.truncated = other.truncated

/-- **Views alike** but for the streams below. -/
structure Decoded.Alike {σ β γ : Type} (related : β → γ → Prop) (s : Decoded σ β)
    (t : Decoded σ γ) : Prop where
  input : s.input.Alike related t.input
  work : s.work = t.work

section Congruence

variable {β γ : Type} {below : Reader β} {other : Reader γ} {related : β → γ → Prop}
  (alike : ∀ n b c, related b c → (below.read n b).1 = (other.read n c).1 ∧
    related (below.read n b).2 (other.read n c).2)
include alike

/-- Readers that answer alike bring the same up to a limit.  The induction is on the supply of the
one, as it is where reading up to a limit comes to an end. -/
theorem Reader.readUpTo_congr (limit : Option Nat) {b : β} {c : γ} (start : related b c) :
    (below.readUpTo limit b).1 = (other.readUpTo limit c).1 ∧
      related (below.readUpTo limit b).2 (other.readUpTo limit c).2 := by
  induction supply : below.supply b using Nat.strongRecOn generalizing limit b c with
  | ind amount ih =>
      rw [readUpTo, readUpTo]
      by_cases finished : limit = some 0
      · rw [if_pos finished, if_pos finished]
        exact ⟨rfl, start⟩
      · rw [if_neg finished, if_neg finished]
        obtain ⟨answer, further⟩ := alike (request limit) b c start
        have spends := below.spends (request limit) b
        rcases reads : below.read (request limit) b with ⟨got, next⟩
        rcases reads' : other.read (request limit) c with ⟨got', next'⟩
        rw [reads, reads'] at answer further
        rw [reads] at spends
        obtain rfl : got = got' := answer
        rcases got with fault | _ | ⟨byte, bytes⟩
        · exact ⟨rfl, further⟩
        · exact ⟨rfl, further⟩
        · simp only [taken_ok, List.length_cons] at spends
          obtain ⟨behind, finally_⟩ := ih (below.supply next) (by omega)
            (limit.map (· - (bytes.length + 1))) further rfl
          dsimp only
          generalize below.readUpTo _ next = one at behind finally_
          generalize other.readUpTo _ next' = two at behind finally_
          obtain ⟨rest, last⟩ := one
          obtain ⟨rest', last'⟩ := two
          obtain rfl : rest = rest' := behind
          cases rest <;> exact ⟨rfl, finally_⟩

/-- Inputs alike are cut at the same byte. -/
theorem Rationed.reader_alike (n : Nat) (input : Rationed β) (mirror : Rationed γ)
    (start : input.Alike related mirror) :
    ((Rationed.reader below).read n input).1 = ((Rationed.reader other).read n mirror).1 ∧
      ((Rationed.reader below).read n input).2.Alike related
        ((Rationed.reader other).read n mirror).2 := by
  change (Rationed.read below n input).1 = (Rationed.read other n mirror).1 ∧
    (Rationed.read below n input).2.Alike related (Rationed.read other n mirror).2
  have allowed : input.allowance n = mirror.allowance n := by
    rw [allowance, allowance, start.budget, start.consumed]
  obtain ⟨answer, further⟩ := alike (input.allowance n) _ _ start.base
  by_cases spent : input.allowance n = 0 ∧ n ≠ 0
  · rw [read_of_spent spent, read_of_spent (allowed ▸ spent)]
    exact ⟨rfl, start.base, start.budget, start.consumed, rfl⟩
  · rw [read_of_allowed spent, read_of_allowed (allowed ▸ spent), ← allowed, answer]
    exact ⟨rfl, further, start.budget, congrArg (· + _) start.consumed, start.truncated⟩

namespace Decoded.Alike

variable {decoder : Decoder} {s : Decoded decoder.machine.State β}
  {t : Decoded decoder.machine.State γ}

/-- A decoder that has started serves alike on inputs alike, and leaves views alike. -/
theorem serve (n : Nat) (work : decoder.machine.State) {input : Rationed β}
    {mirror : Rationed γ} (start : input.Alike related mirror) :
    (Decoded.serve decoder below n work input).1 = (Decoded.serve decoder other n work mirror).1 ∧
      (Decoded.serve decoder below n work input).2.Alike related
        (Decoded.serve decoder other n work mirror).2 := by
  obtain ⟨result, next, after, after', one, two, inputs⟩ :=
    Machine.serve_congr (Rationed.reader_alike alike) start n work
  rw [Decoded.serve, Decoded.serve, one, two]
  cases result with
  | ok bytes => exact ⟨rfl, inputs, rfl⟩
  | error fault =>
      dsimp only at inputs ⊢
      rw [inputs.truncated]
      exact ⟨rfl, inputs, rfl⟩

/-- **Views alike answer alike.** -/
theorem read (start : s.Alike related t) (n : Nat) :
    (Decoded.read decoder below n s).1 = (Decoded.read decoder other n t).1 ∧
      (Decoded.read decoder below n s).2.Alike related (Decoded.read decoder other n t).2 := by
  rw [Decoded.read, Decoded.read, ← start.work]
  cases s.work with
  | some work => exact serve alike n work start.input
  | none =>
      obtain ⟨result, next, after, after', one, two, inputs⟩ :=
        Machine.open_congr (Rationed.reader_alike alike) start.input
      dsimp only
      rw [one, two]
      cases result with
      | ok done => exact serve alike n next inputs
      | error fault => exact ⟨rfl, inputs, rfl⟩

end Decoded.Alike

end Congruence

/-- Only what a decoder is given from below tells views apart. -/
theorem Decoded.recalls {β : Type} {below : StreamKind β} {limits : Option Nat → Prop}
    {akin same : β → β → Prop} (recalls : below.Recalls limits akin same) (decoder : Decoder)
    (shares : ∀ share, limits share → limits (share.map decoder.outerLimit)) :
    (kind decoder below).Recalls limits
      (fun s t => akin s.input.base t.input.base ∧ s.input.budget = t.input.budget)
      (Alike same) where
  symm := fun ⟨akin, budget⟩ => ⟨recalls.symm akin, budget.symm⟩
  read := by
    intro s t start n
    exact read_preserves (akin · t.input.base) decoder below.toReader
      (fun n b akin => recalls.read akin n) t.input.budget n s start
  limit := by
    intro s t limit given akin
    exact ⟨recalls.limit (shares limit given) akin.1, rfl⟩
  rewind := by
    intro s t ⟨akin, budget⟩
    obtain ⟨rewound, again⟩ := recalls.rewind akin
    exact ⟨rewound, ⟨again, budget, rfl, rfl⟩, rfl⟩
  akin_of_same := fun alike => ⟨recalls.akin_of_same alike.input.base, alike.input.budget⟩
  same_read := fun alike n => alike.read (fun n _ _ same => recalls.same_read same n) n
  same_limit := by
    intro s t limit given alike
    exact ⟨⟨recalls.same_limit (shares limit given) alike.input.base, rfl,
      alike.input.consumed, alike.input.truncated⟩, alike.work⟩

namespace ByteStream.Twins

variable {limits : Option Nat → Prop} {one other : ByteStream} (twins : one.Twins limits other)
include twins

/-- Twins answer a request alike, and are twins after it. -/
theorem read (n : Nat) :
    (one.read n).1 = (other.read n).1 ∧ (one.read n).2.Twins limits (other.read n).2 := by
  obtain ⟨recalls, same⟩ := twins
  obtain ⟨answer, again⟩ := recalls.same_read same n
  exact ⟨answer, .intro recalls again⟩

/-- Twins are read alike up to any limit, and are twins after that. -/
theorem readUpTo (limit : Option Nat) :
    (one.readUpTo limit).1 = (other.readUpTo limit).1 ∧
      (one.readUpTo limit).2.Twins limits (other.readUpTo limit).2 := by
  obtain ⟨recalls, same⟩ := twins
  obtain ⟨answer, again⟩ :=
    Reader.readUpTo_congr (fun n _ _ same => recalls.same_read same n) limit same
  exact ⟨answer, .intro recalls again⟩

/-- **A look cannot tell twins apart.** -/
theorem run (probe : Probe) : (probe.run one).1 = (probe.run other).1 := by
  induction probe generalizing one other with
  | answer outcome => rfl
  | read amount next ih =>
      obtain ⟨answer, further⟩ := twins.read amount
      change ((next (one.read amount).1).run (one.read amount).2).1 = _
      rw [answer]
      exact ih _ further
  | readUpTo limit next ih =>
      obtain ⟨answer, further⟩ := twins.readUpTo limit
      change ((next (one.readUpTo limit).1).run (one.readUpTo limit).2).1 = _
      rw [answer]
      exact ih _ further

/-- Twins under the same limit are twins. -/
theorem setLimit {limit : Option Nat} (given : limits limit) :
    (one.setLimit limit).Twins limits (other.setLimit limit) := by
  obtain ⟨recalls, same⟩ := twins
  exact .intro recalls (recalls.same_limit given same)

/-- **Twins are twins again** after a rewind, whatever has been read from either. -/
theorem rewind (first second : Probe) :
    (first.run one).2.rewind.1 = .ok () ∧ (second.run other).2.rewind.1 = .ok () ∧
      (first.run one).2.rewind.2.Twins limits (second.run other).2.rewind.2 := by
  obtain @⟨σ, kind, akin, same, s, t, recalls, here⟩ := twins
  -- Each look leaves its stream akin to the other.
  have after : ∀ (probe : Probe) {s t : σ}, akin s t →
      ∃ s', (probe.run ⟨kind, s⟩).2 = ⟨kind, s'⟩ ∧ akin s' t := by
    intro probe s t start
    have reads : ∀ (stream : ByteStream) (n : Nat), (∃ s', stream = ⟨kind, s'⟩ ∧ akin s' t) →
        ∃ s', (stream.read n).2 = ⟨kind, s'⟩ ∧ akin s' t := by
      rintro _ n ⟨s, rfl, akin⟩
      exact ⟨_, rfl, recalls.read akin n⟩
    exact Probe.run_preserves reads probe ⟨s, rfl, start⟩
  obtain ⟨s', left, akin⟩ := after first (recalls.akin_of_same here)
  obtain ⟨t', right, akin'⟩ := after second (recalls.symm akin)
  obtain ⟨rewound, again⟩ := recalls.rewind (recalls.symm akin')
  rw [left, right]
  exact ⟨rewound, (recalls.rewind akin').1, .intro recalls again⟩

/-- Decoded views on twins are twins, if the limits are kept as they are handed down. -/
theorem decoded {decoder : Decoder}
    (shares : ∀ share, limits share → limits (share.map decoder.outerLimit)) :
    (one.decoded decoder).Twins limits (other.decoded decoder) := by
  obtain ⟨recalls, same⟩ := twins
  exact .intro (Decoded.recalls recalls decoder shares) ⟨⟨same, rfl, rfl, rfl⟩, rfl⟩

end ByteStream.Twins

end Discern
