import Discern.Detection.Probe
import Discern.Stream.Decoded

/-!
# Replaying a stack of decoded streams

Whatever is read from decoded views on top of a stream that can be replayed, a rewind
brings back the views as they were opened, at the first byte of what they show.  What
the reading may not touch is kept along it (`Reading`); a rewind leads from there to
views that are opened anew (`Reading.rewind`).
-/

namespace Discern

/-- **A stream that can be replayed.**  Reads hand out the bytes that are left of its
content, and rewinds bring all of them back, under the limits that it is given. -/
structure StreamKind.Replays {σ : Type} (kind : StreamKind σ) (limits : Option Nat → Prop)
    (content : Bytes) (left : σ → Bytes → Prop) : Prop where
  read : ∀ {s rest}, left s rest → ∀ n, ∃ bytes later,
    (kind.read n s).1 = .ok bytes ∧ rest = bytes ++ later ∧ left (kind.read n s).2 later
  rewind : ∀ {s rest}, left s rest →
    (kind.rewind s).1 = .ok () ∧ left (kind.rewind s).2 content
  limit : ∀ {s rest limit}, limits limit → left s rest → left (kind.limit limit s) rest

/-- What requests and limits keep of a stream. -/
structure StreamKind.Follows {σ : Type} (kind : StreamKind σ) (limits : Option Nat → Prop)
    (left : σ → Bytes → Prop) : Prop where
  read : ∀ {s rest}, left s rest → ∀ n, ∃ later, left (kind.read n s).2 later
  limit : ∀ {s rest limit}, limits limit → left s rest → left (kind.limit limit s) rest

/-- A stream that can be replayed follows its requests and limits. -/
theorem StreamKind.Replays.follows {σ : Type} {kind : StreamKind σ} {limits : Option Nat → Prop}
    {content : Bytes} {left : σ → Bytes → Prop} (replays : kind.Replays limits content left) :
    kind.Follows limits left where
  read := by
    intro s rest inside n
    obtain ⟨_, later, -, -, next⟩ := replays.read inside n
    exact ⟨later, next⟩
  limit := replays.limit

section Preservation

variable {β : Type} (holds : β → Prop)

/-- What requests preserve of an input is preserved while a machine is driven on it. -/
theorem Machine.drive_preserves {σ α : Type} {books : Books σ} {size : α → Nat}
    {step : σ → Move σ α} (keeps : ∀ s, books.Keeps size s (step s)) (input : Reader β)
    (preserved : ∀ n b, holds b → holds (input.read n b).2) (s : σ) (b : β) (start : holds b) :
    holds (drive books size step keeps input s b).2.2 := by
  fun_induction drive books size step keeps input s b with
  | case1 s b result next answers => exact start
  | case2 s b next thinks ih => exact ih start
  | case3 s b amount next pulls got rest reads ih =>
      apply ih
      have moved := preserved amount b start
      rwa [reads] at moved

/-- What requests preserve is preserved while reading up to a limit. -/
theorem Reader.readUpTo_preserves (reader : Reader β)
    (preserved : ∀ n b, holds b → holds (reader.read n b).2) (limit : Option Nat) (b : β)
    (start : holds b) : holds (reader.readUpTo limit b).2 := by
  have after : ∀ {n b got next}, reader.read n b = (got, next) → holds b → holds next := by
    intro n b got next reads before
    have moved := preserved n b before
    rwa [reads] at moved
  fun_induction reader.readUpTo limit b with
  | case1 b => exact start
  | case2 limit b unfinished fault next reads => exact after reads start
  | case3 limit b unfinished next reads => exact after reads start
  | case4 limit b unfinished byte bytes next reads rest last deeper ih =>
      have reached := ih (after reads start)
      rwa [deeper] at reached
  | case5 limit b unfinished byte bytes next reads fault last deeper ih =>
      have reached := ih (after reads start)
      rwa [deeper] at reached

/-- A rationed request preserves the budget, and below it what requests preserve. -/
theorem Rationed.read_preserves (below : Reader β)
    (preserved : ∀ n b, holds b → holds (below.read n b).2) (budget : Option Nat) (n : Nat)
    (input : Rationed β) (start : holds input.base ∧ input.budget = budget) :
    holds (read below n input).2.base ∧ (read below n input).2.budget = budget := by
  have moved := preserved (input.allowance n) input.base start.1
  rw [read]
  by_cases spent : input.allowance n = 0 ∧ n ≠ 0
  · rw [if_pos spent]
    exact start
  · rw [if_neg spent]
    split
    · rename_i bytes base reads
      rw [reads] at moved
      exact ⟨moved, start.2⟩
    · rename_i fault base reads
      rw [reads] at moved
      exact ⟨moved, start.2⟩

/-- Decoding touches its input by requests only. -/
theorem Decoded.read_preserves_input (decoder : Decoder) (below : Reader β)
    (kept : Rationed β → Prop)
    (preserved : ∀ n input, kept input → kept (Rationed.read below n input).2) (n : Nat)
    (s : Decoded decoder.machine.State β) (start : kept s.input) :
    kept (read decoder below n s).2.input := by
  have served : ∀ work input, kept input →
      kept (serve decoder below n work input).2.input := by
    intro work input before
    have after := Machine.drive_preserves kept (decoder.machine.serving_keeps n)
      (Rationed.reader below) preserved work input before
    change kept (decoder.machine.serve n (Rationed.reader below) work input).2.2 at after
    rw [serve]
    generalize decoder.machine.serve n (Rationed.reader below) work input = outcome at after
    obtain ⟨result | result, work, input⟩ := outcome <;> exact after
  have opened := Machine.drive_preserves kept decoder.machine.opening_keeps
    (Rationed.reader below) preserved decoder.machine.fresh s.input start
  change kept (decoder.machine.open? (Rationed.reader below) s.input).2.2 at opened
  rw [read]
  cases s.work with
  | some work => exact served work s.input start
  | none =>
      generalize decoder.machine.open? (Rationed.reader below) s.input = outcome at opened
      obtain ⟨fault | done, work, input⟩ := outcome
      · exact opened
      · exact served work input opened

/-- Decoding touches the stream below by reads only. -/
theorem Decoded.read_preserves (decoder : Decoder) (below : Reader β)
    (preserved : ∀ n b, holds b → holds (below.read n b).2) (budget : Option Nat) (n : Nat)
    (s : Decoded decoder.machine.State β)
    (start : holds s.input.base ∧ s.input.budget = budget) :
    holds (read decoder below n s).2.input.base ∧
      (read decoder below n s).2.input.budget = budget :=
  read_preserves_input decoder below (fun input => holds input.base ∧ input.budget = budget)
    (Rationed.read_preserves holds below preserved budget) n s start

variable {keeps : ByteStream → Prop} (reads : ∀ stream n, keeps stream → keeps (stream.read n).2)
include reads

/-- What reads preserve of a stream is preserved while reading up to a bound. -/
theorem ByteStream.readUpTo_preserves {stream : ByteStream} (start : keeps stream)
    (bound : Option Nat) : keeps (stream.readUpTo bound).2 := by
  obtain ⟨kind, s⟩ := stream
  exact Reader.readUpTo_preserves (fun s => keeps ⟨kind, s⟩) kind.toReader
    (fun n s here => reads ⟨kind, s⟩ n here) bound s start

/-- **A look at a stream** keeps what every request keeps. -/
theorem Probe.run_preserves (probe : Probe) {stream : ByteStream} (start : keeps stream) :
    keeps (probe.run stream).2 := by
  induction probe generalizing stream with
  | answer outcome => exact start
  | read amount next ih => exact ih _ (reads stream amount start)
  | readUpTo bound next ih => exact ih _ (ByteStream.readUpTo_preserves reads start bound)

end Preservation

section Stack

variable {σ : Type} (kind : StreamKind σ) (content : Bytes) (left : σ → Bytes → Prop)

/-- **Decoded views opened anew** on a stream at its first byte, the last decoder first.
Each view has its share of the limit on the whole and has decoded nothing. -/
inductive Opened : Option Nat → List Decoder → ByteStream → Prop
  | base {limit : Option Nat} {s : σ} (first : left s content) : Opened limit [] ⟨kind, s⟩
  | decoded {limit : Option Nat} {decoder : Decoder} {stack : List Decoder} {β : Type}
      {below : StreamKind β} {s : β}
      (base : Opened (limit.map decoder.outerLimit) stack ⟨below, s⟩) :
      Opened limit (decoder :: stack)
        ⟨Decoded.kind decoder below, ⟨⟨s, limit.map decoder.outerLimit, 0, false⟩, none⟩⟩

/-- Decoded views from which something may have been read. -/
inductive Reading : Option Nat → List Decoder → ByteStream → Prop
  | base {limit : Option Nat} {s : σ} {rest : Bytes} (inside : left s rest) :
      Reading limit [] ⟨kind, s⟩
  | decoded {limit : Option Nat} {decoder : Decoder} {stack : List Decoder} {β : Type}
      {below : StreamKind β} {s : Decoded decoder.machine.State β}
      (base : Reading (limit.map decoder.outerLimit) stack ⟨below, s.input.base⟩)
      (budget : s.input.budget = limit.map decoder.outerLimit) :
      Reading limit (decoder :: stack) ⟨Decoded.kind decoder below, s⟩

variable {kind content left} {limit : Option Nat} {stack : List Decoder} {stream : ByteStream}

/-- Views opened anew are views from which something may have been read. -/
theorem Opened.reading (opened : Opened kind content left limit stack stream) :
    Reading kind left limit stack stream := by
  induction opened with
  | base first => exact .base first
  | decoded _ ih => exact .decoded ih rfl

section Follows

variable {limits : Option Nat → Prop} (follows : kind.Follows limits left)
include follows

/-- A request leaves views in which the base goes on and every budget stands. -/
theorem Reading.read (reading : Reading kind left limit stack stream) (n : Nat) :
    Reading kind left limit stack (stream.read n).2 := by
  induction stack generalizing limit stream n with
  | nil =>
      cases reading with
      | base inside =>
          obtain ⟨_, later⟩ := follows.read inside n
          exact .base later
  | cons decoder stack ih =>
      cases reading with
      | @decoded _ _ _ β below s base budget =>
          have preserved := Decoded.read_preserves
            (fun b => Reading kind left (limit.map decoder.outerLimit) stack ⟨below, b⟩)
            decoder below.toReader (fun n b inside => ih inside n)
            (limit.map decoder.outerLimit) n s ⟨base, budget⟩
          exact .decoded preserved.1 preserved.2

/-- A probe leaves such views as well, since it only sends requests. -/
theorem Reading.run (reading : Reading kind left limit stack stream) (probe : Probe) :
    Reading kind left limit stack (probe.run stream).2 :=
  probe.run_preserves (fun _ n reading => reading.read follows n) reading

variable (shares : ∀ decoder ∈ stack, ∀ share, limits share → limits (share.map decoder.outerLimit))
  {next : Option Nat} (given : limits next)
include shares given

/-- Every view gets its share of a new limit. -/
theorem Opened.setLimit (opened : Opened kind content left limit stack stream) :
    Opened kind content left next stack (stream.setLimit next) := by
  induction opened generalizing next with
  | base first => exact .base (follows.limit given first)
  | @decoded limit decoder stack β below s base ih =>
      have limited := ih (fun other member => shares other (List.mem_cons_of_mem _ member))
        (shares decoder List.mem_cons_self next given)
      exact .decoded limited

/-- Views that have been read from get their shares as well. -/
theorem Reading.setLimit (reading : Reading kind left limit stack stream) :
    Reading kind left next stack (stream.setLimit next) := by
  induction reading generalizing next with
  | base inside => exact .base (follows.limit given inside)
  | @decoded limit decoder stack β below s base budget ih =>
      have limited := ih (fun other member => shares other (List.mem_cons_of_mem _ member))
        (shares decoder List.mem_cons_self next given)
      exact .decoded limited rfl

end Follows

section Replays

variable {limits : Option Nat → Prop} (replays : kind.Replays limits content left)
include replays

/-- **A rewind opens all views anew.** -/
theorem Reading.rewind (reading : Reading kind left limit stack stream) :
    stream.rewind.1 = .ok () ∧ Opened kind content left limit stack stream.rewind.2 := by
  induction reading with
  | base inside =>
      obtain ⟨rewound, first⟩ := replays.rewind inside
      exact ⟨rewound, .base first⟩
  | @decoded limit decoder stack β below s base budget ih =>
      obtain ⟨rewound, opened⟩ := ih
      refine ⟨rewound, ?_⟩
      have view := Opened.decoded opened
      rw [← budget] at view
      exact view

/-- A further view is opened anew under a limit on the whole. -/
theorem Opened.setLimit_decoded (opened : Opened kind content left limit stack stream)
    (decoder : Decoder)
    (shares : ∀ other ∈ decoder :: stack, ∀ share,
      limits share → limits (share.map other.outerLimit))
    {next : Option Nat} (given : limits next) :
    Opened kind content left next (decoder :: stack) ((stream.decoded decoder).setLimit next) :=
  .decoded (opened.setLimit replays.follows (fun other member => shares other (.tail _ member))
    (shares decoder List.mem_cons_self next given))

end Replays

end Stack

/-- Without a limit the views are those that decoding makes. -/
theorem opened_none_iff {σ : Type} {kind : StreamKind σ} {content : Bytes}
    {left : σ → Bytes → Prop} {stack : List Decoder} {stream : ByteStream} :
    Opened kind content left none stack stream ↔ ∃ s, left s content ∧
      stream = stack.foldr (fun decoder below => below.decoded decoder) ⟨kind, s⟩ := by
  induction stack generalizing stream with
  | nil =>
      constructor
      · rintro ⟨first⟩
        exact ⟨_, first, rfl⟩
      · rintro ⟨s, first, rfl⟩
        exact .base first
  | cons decoder stack ih =>
      constructor
      · intro opened
        cases opened with
        | decoded base =>
            obtain ⟨s, first, same⟩ := ih.mp base
            refine ⟨s, first, ?_⟩
            rw [List.foldr_cons, ← same]
            rfl
      · rintro ⟨s, first, rfl⟩
        have below := ih.mpr ⟨s, first, rfl⟩
        exact Opened.decoded below

/-- A content in memory can be replayed under every limit. -/
theorem Cursor.replays (content : Bytes) (limits : Option Nat → Prop) :
    Cursor.kind.Replays limits content fun s rest => s.content = content ∧ s.rest = rest where
  read := by
    rintro s rest ⟨same, rfl⟩ n
    exact ⟨s.rest.take n, s.rest.drop n, rfl, (List.take_append_drop n s.rest).symm, same, rfl⟩
  rewind := by
    rintro s rest ⟨same, -⟩
    exact ⟨rfl, same, same⟩
  limit := fun _ inside => inside

end Discern
