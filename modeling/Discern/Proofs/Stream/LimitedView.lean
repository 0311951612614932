import Discern.Proofs.Decoder.Base64Flow
import Discern.Proofs.Stream.Budget
import Discern.Proofs.Stream.Retention

/-!
# Limited views

Under a limit a decoded view delivers what its decoder makes of the beginning of the encoded
content that the budget allows.  This is a beginning of what it delivers without a limit, it
is delivered again after every rewind, whatever was read before, and a rewind without the
limit brings back the rest (`ByteStream.Afresh.limited_replays`).

The view and its decoder alone, at work on the cut content, answer alike up to the first end
or fault (`Decoded.Mirrors`): the view only calls some faults an end.
-/

namespace Discern

/-- **What reading has come to.**  It is complete where it has met the end or a fault. -/
structure Sweep where
  bytes : Bytes
  complete : Bool
deriving DecidableEq

namespace ByteStream

/-- **Read in requests of some sizes** until it is complete. -/
def sweep : List Nat → ByteStream → Sweep
  | [], _ => ⟨[], false⟩
  | n :: sizes, s =>
    match s.read n with
    | (.error _, _) => ⟨[], true⟩
    | (.ok bytes, s) =>
      if bytes.isEmpty then ⟨[], true⟩
      else
        let later := s.sweep sizes
        ⟨bytes ++ later.bytes, later.complete⟩

/-- **The bytes that a stream delivers** before its first end or fault, in requests of
whatever sizes, as long as each is for something. -/
def Delivers (s : ByteStream) (bytes : Bytes) : Prop :=
  ∀ sizes : List Nat, 0 ∉ sizes →
    (s.sweep sizes).bytes <+: bytes ∧
      ((s.sweep sizes).complete = true → (s.sweep sizes).bytes = bytes)

variable {s next : ByteStream} {n : Nat} {sizes : List Nat}

theorem sweep_of_error {fault : Fault} (failed : (s.read n).1 = .error fault) :
    s.sweep (n :: sizes) = ⟨[], true⟩ := by
  rw [sweep]
  generalize s.read n = got at failed
  obtain ⟨answer, next⟩ := got
  obtain rfl : answer = .error fault := failed
  rfl

/-- A piece goes before the sweep of the rest, and an empty one completes it. -/
theorem sweep_of_ok {bytes : Bytes} (reads : s.read n = (.ok bytes, next)) :
    s.sweep (n :: sizes) = if bytes.isEmpty then ⟨[], true⟩
      else ⟨bytes ++ (next.sweep sizes).bytes, (next.sweep sizes).complete⟩ := by
  rw [sweep, reads]

theorem sweep_of_empty (ended : (s.read n).1 = .ok []) : s.sweep (n :: sizes) = ⟨[], true⟩ := by
  rw [sweep_of_ok (Prod.ext ended rfl)]
  rfl

/-- A sweep takes a byte at least with each request, or is complete. -/
theorem sweep_complete (sizes : List Nat) (s : ByteStream) :
    (s.sweep sizes).complete = true ∨ sizes.length ≤ (s.sweep sizes).bytes.length := by
  induction sizes generalizing s with
  | nil => exact .inr (Nat.zero_le _)
  | cons n sizes ih =>
      cases answered : (s.read n).1 with
      | error fault => exact .inl (congrArg Sweep.complete (sweep_of_error answered))
      | ok bytes =>
          rw [sweep_of_ok (Prod.ext answered rfl)]
          cases bytes with
          | nil => exact .inl rfl
          | cons byte bytes =>
              refine (ih (s.read n).2).imp id fun long => ?_
              change sizes.length + 1 ≤ (byte :: bytes ++ ((s.read n).2.sweep sizes).bytes).length
              rw [List.length_append, List.length_cons]
              omega

/-- **Enough requests deliver everything.** -/
theorem Delivers.sweep_eq {bytes : Bytes} (delivers : s.Delivers bytes) (positive : 0 ∉ sizes)
    (enough : bytes.length < sizes.length) : s.sweep sizes = ⟨bytes, true⟩ := by
  obtain ⟨lead, whole⟩ := delivers sizes positive
  have complete : (s.sweep sizes).complete = true := by
    refine (sweep_complete sizes s).resolve_right fun long => ?_
    have short := lead.length_le
    omega
  rw [← whole complete, ← complete]

/-- **A request is answered** as long as there is something to deliver. -/
theorem Delivers.read {bytes : Bytes} (delivers : s.Delivers bytes) (asked : n ≠ 0)
    (some_bytes : bytes ≠ []) :
    ∃ piece later, (s.read n).1 = .ok piece ∧ piece ≠ [] ∧ bytes = piece ++ later ∧
      (s.read n).2.Delivers later := by
  have single : 0 ∉ [n] := by simpa using asked.symm
  cases answered : (s.read n).1 with
  | error fault =>
      have whole := (delivers [n] single).2
      rw [sweep_of_error answered] at whole
      exact absurd (whole rfl).symm some_bytes
  | ok piece =>
      by_cases empty : piece = []
      · have whole := (delivers [n] single).2
        rw [empty] at answered
        rw [sweep_of_empty answered] at whole
        exact absurd (whole rfl).symm some_bytes
      · have step : ∀ sizes, s.sweep (n :: sizes) =
            ⟨piece ++ ((s.read n).2.sweep sizes).bytes, ((s.read n).2.sweep sizes).complete⟩ :=
          fun sizes => (sweep_of_ok (Prod.ext answered rfl)).trans
            (if_neg (by rwa [List.isEmpty_iff]))
        obtain ⟨later, split⟩ : piece <+: bytes := by
          have lead := (delivers [n] single).1
          rwa [step, sweep, List.append_nil] at lead
        refine ⟨piece, later, rfl, empty, split.symm, fun sizes positive => ?_⟩
        have both := delivers (n :: sizes) (by simpa using ⟨asked.symm, positive⟩)
        rw [step, ← split, List.prefix_append_right_inj, List.append_cancel_left_eq] at both
        exact both

/-- Within what a stream delivers a request brings a piece, and the rest is delivered behind it. -/
theorem Delivers.piece {σ : Type} {kind : StreamKind σ} {s : σ} {bytes : Bytes}
    (delivers : (⟨kind, s⟩ : ByteStream).Delivers bytes) {bound : Option Nat} {limit : Nat}
    (unfinished : bound ≠ some 0) (given : some limit = bound) (within : limit ≤ bytes.length) :
    ∃ piece later, (kind.read (Reader.request bound) s).1 = .ok piece ∧ piece ≠ [] ∧
      bytes = piece ++ later ∧
      (⟨kind, (kind.read (Reader.request bound) s).2⟩ : ByteStream).Delivers later := by
  refine delivers.read (Reader.request_ne_zero unfinished) (List.length_pos_iff.mp ?_)
  subst given
  have positive : limit ≠ 0 := fun zero => unfinished (congrArg some zero)
  omega

/-- **Reading up to a limit** brings what is delivered up to it. -/
theorem Delivers.readUpTo {bytes : Bytes} (delivers : s.Delivers bytes) {limit : Nat}
    (within : limit ≤ bytes.length) :
    (s.readUpTo (some limit)).1 = .ok (bytes.take limit) := by
  obtain ⟨kind, s⟩ := s
  change (kind.toReader.readUpTo (some limit) s).1 = _
  generalize given : some limit = bound
  fun_induction kind.toReader.readUpTo bound s generalizing bytes limit with
  | case1 s =>
      obtain rfl := Option.some.inj given
      rw [List.take_zero]
  | case2 bound s unfinished fault next reads =>
      obtain ⟨piece, later, answered, -⟩ := delivers.piece unfinished given within
      rw [reads] at answered
      cases answered
  | case3 bound s unfinished next reads =>
      obtain ⟨piece, later, answered, some_piece, -⟩ := delivers.piece unfinished given within
      rw [reads] at answered
      exact absurd (Except.ok.inj answered).symm some_piece
  | case4 bound s unfinished byte piece next reads rest last deeper ih =>
      obtain ⟨got, later, answered, -, rfl, further⟩ := delivers.piece unfinished given within
      subst given
      have short := kind.taken_le (Reader.request (some limit)) s
      rw [reads] at answered further short
      obtain rfl := Except.ok.inj answered
      have inside : (byte :: piece).length ≤ limit := Nat.le_trans short (Reader.request_le limit)
      rw [List.length_append, List.length_cons] at within
      have inner := ih (by dsimp only; omega) further rfl
      rw [deeper] at inner
      rw [List.take_append, List.take_of_length_le inside, List.length_cons,
        Except.ok.inj inner]
  | case5 bound s unfinished byte piece next reads fault last deeper ih =>
      obtain ⟨got, later, answered, -, rfl, further⟩ := delivers.piece unfinished given within
      subst given
      rw [reads] at answered further
      obtain rfl := Except.ok.inj answered
      rw [List.length_append, List.length_cons] at within
      have inner := ih (by dsimp only; omega) further rfl
      rw [deeper] at inner
      cases inner

/-- What is brought before an end or a fault that never comes early is delivered. -/
theorem Brings.delivers {flow : Flow} (brings : s.Brings False flow) : s.Delivers flow.bytes := by
  intro sizes
  induction sizes generalizing s flow with
  | nil => exact fun _ => ⟨List.nil_prefix, nofun⟩
  | cons n sizes ih =>
      rintro positive
      rw [List.mem_cons, not_or] at positive
      cases answered : (s.read n).1 with
      | error fault =>
          rw [sweep_of_error answered, Reader.Brings.error_of_late brings answered]
          exact ⟨List.nil_prefix, fun _ => rfl⟩
      | ok bytes =>
          obtain ⟨⟨later, split, further⟩, ends⟩ := Reader.Brings.ok brings answered
          rw [sweep_of_ok (Prod.ext answered rfl)]
          cases bytes with
          | nil =>
              rw [ends rfl (Ne.symm positive.1)]
              exact ⟨List.nil_prefix, fun _ => rfl⟩
          | cons byte bytes =>
              have behind : (s.read n).2.Brings False ⟨later, flow.fault⟩ := further
              obtain ⟨lead, whole⟩ := ih behind positive.2
              rw [split]
              exact ⟨(List.prefix_append_right_inj _).mpr lead,
                fun complete => congrArg (byte :: bytes ++ ·) (whole complete)⟩

end ByteStream

section Congruence

variable {β γ : Type} {input : Reader β} {other : Reader γ} {related : β → γ → Prop}
  (alike : ∀ n b c, related b c → (input.read n b).1 = (other.read n c).1 ∧
    related (input.read n b).2 (other.read n c).2)
  {b : β} {c : γ} (start : related b c)
include alike start

/-- **Machines on inputs that answer alike** come to the same result. -/
theorem Machine.drive_congr {σ α : Type} {books : Books σ} {size : α → Nat}
    {step : σ → Move σ α} (keeps : ∀ s, books.Keeps size s (step s)) (s : σ) :
    ∃ result next after after',
      drive books size step keeps input s b = (result, next, after) ∧
        drive books size step keeps other s c = (result, next, after') ∧
        related after after' := by
  fun_induction drive books size step keeps input s b generalizing c with
  | case1 s b result next answers =>
      exact ⟨result, next, b, c, rfl, drive_of_answer answers, start⟩
  | case2 s b next thinks ih =>
      rw [drive_of_think thinks]
      exact ih start
  | case3 s b amount next pulls got rest reads ih =>
      obtain ⟨same, further⟩ := alike amount b c start
      rw [reads] at same further
      rw [drive_of_pull pulls, ← same]
      exact ih further

variable {m : Machine}

/-- A machine opens inputs that answer alike with one result and the same work. -/
theorem Machine.open_congr :
    ∃ result work after after', m.open? input b = (result, work, after) ∧
      m.open? other c = (result, work, after') ∧ related after after' :=
  drive_congr alike start m.opening_keeps m.fresh

/-- A machine serves alike from inputs that answer alike, with the same work after. -/
theorem Machine.serve_congr (n : Nat) (work : m.State) :
    ∃ result next after after', m.serve n input work b = (result, next, after) ∧
      m.serve n other work c = (result, next, after') ∧ related after after' :=
  drive_congr alike start (m.serving_keeps n) work

end Congruence

/-- **What a decoder sees of a stream,** as a stream. -/
def Rationed.kind {β : Type} (below : StreamKind β) : StreamKind (Rationed β) where
  toReader := Rationed.reader below.toReader
  rewind s := ((below.rewind s.base).1,
    { s with base := (below.rewind s.base).2, consumed := 0, truncated := false })
  limit budget s := { s with budget, base := below.limit budget s.base }

/-- **A view and its decoder alone,** which has the same work to do on the same input. -/
structure Decoded.Mirrors {σ β : Type} (s : Decoded σ β) (t : Decoded σ (Rationed β)) : Prop where
  work : t.work = s.work
  input : t.input.base = s.input
  uncut : t.input.Uncut

namespace Decoded.Mirrors

variable {β : Type} {decoder : Decoder} (below : Reader β)
  {s : Decoded decoder.machine.State β} {t : Decoded decoder.machine.State (Rationed β)}

/-- An input without a budget is read as it is. -/
theorem input_alike (n : Nat) (input : Rationed β) (outer : Rationed (Rationed β))
    (related : outer.base = input ∧ outer.Uncut) :
    ((Rationed.reader below).read n input).1 =
        ((Rationed.reader (Rationed.reader below)).read n outer).1 ∧
      ((Rationed.reader (Rationed.reader below)).read n outer).2.base =
        ((Rationed.reader below).read n input).2 ∧
      ((Rationed.reader (Rationed.reader below)).read n outer).2.Uncut := by
  obtain ⟨rfl, unlimited, whole⟩ := related
  have reads : (Rationed.reader (Rationed.reader below)).read n outer = _ :=
    Rationed.read_of_unlimited unlimited n
  rw [reads]
  exact ⟨rfl, rfl, unlimited, whole⟩

/-- **The view answers as its decoder does alone,** or both are over. -/
def Alike (s : Except Fault Bytes × Decoded decoder.machine.State β)
    (t : Except Fault Bytes × Decoded decoder.machine.State (Rationed β)) : Prop :=
  (∃ bytes, s.1 = .ok bytes ∧ t.1 = .ok bytes ∧ Mirrors s.2 t.2) ∨
    ((s.1 = .ok [] ∨ ∃ fault, s.1 = .error fault) ∧ ∃ fault, t.1 = .error fault)

/-- A view and its decoder alone serve alike, with the same work on the same input. -/
theorem serve (n : Nat) (work : decoder.machine.State) {input : Rationed β}
    {outer : Rationed (Rationed β)} (same : outer.base = input) (uncut : outer.Uncut) :
    Alike (Decoded.serve decoder below n work input)
      (Decoded.serve decoder (Rationed.reader below) n work outer) := by
  obtain ⟨result, next, after, after', one, two, inputs, uncut⟩ :=
    Machine.serve_congr (input_alike below) ⟨same, uncut⟩ n work
  rw [Decoded.serve, Decoded.serve, one, two]
  cases result with
  | ok bytes => exact .inl ⟨bytes, rfl, rfl, ⟨rfl, inputs, uncut⟩⟩
  | error fault =>
      right
      dsimp only
      constructor
      · by_cases cut : after.truncated = true
        · exact .inl (if_pos cut)
        · exact .inr ⟨fault, if_neg cut⟩
      · exact ⟨fault, if_neg (Bool.eq_false_iff.mp uncut.2)⟩

/-- A view and its decoder alone answer a request alike, or both are over. -/
theorem read (mirrors : Mirrors s t) (n : Nat) :
    Alike (Decoded.read decoder below n s)
      (Decoded.read decoder (Rationed.reader below) n t) := by
  obtain ⟨working, same, uncut⟩ := mirrors
  rw [Decoded.read, Decoded.read, working]
  cases s.work with
  | some work => exact serve below n work same uncut
  | none =>
      obtain ⟨result, next, after, after', one, two, inputs, uncut⟩ :=
        Machine.open_congr (input_alike below) ⟨same, uncut⟩
      dsimp only
      rw [one, two]
      cases result with
      | ok done => exact serve below n next inputs uncut
      | error fault => exact .inr ⟨.inr ⟨fault, rfl⟩, fault, rfl⟩

end Decoded.Mirrors

/-- What is swept from a view is what is swept from its decoder alone. -/
theorem Decoded.Mirrors.sweep_eq {β : Type} {decoder : Decoder} {below : StreamKind β}
    {s : Decoded decoder.machine.State β} {t : Decoded decoder.machine.State (Rationed β)}
    (mirrors : Mirrors s t) (sizes : List Nat) :
    (⟨Decoded.kind decoder below, s⟩ : ByteStream).sweep sizes =
      (⟨Decoded.kind decoder (Rationed.kind below), t⟩ : ByteStream).sweep sizes := by
  induction sizes generalizing s t with
  | nil => rfl
  | cons n sizes ih =>
      obtain ⟨bytes, one, other, further⟩ | ⟨stops, fault, failed⟩ :=
        mirrors.read below.toReader n
      · have left : (⟨Decoded.kind decoder below, s⟩ : ByteStream).read n =
            (.ok bytes, ⟨Decoded.kind decoder below,
              (Decoded.read decoder below.toReader n s).2⟩) := Prod.ext one rfl
        have right : (⟨Decoded.kind decoder (Rationed.kind below), t⟩ : ByteStream).read n =
            (.ok bytes, ⟨Decoded.kind decoder (Rationed.kind below),
              (Decoded.read decoder (Rationed.reader below.toReader) n t).2⟩) :=
          Prod.ext other rfl
        rw [ByteStream.sweep_of_ok left, ByteStream.sweep_of_ok right, ih further]
      · have right : (⟨Decoded.kind decoder (Rationed.kind below), t⟩ : ByteStream).sweep
            (n :: sizes) = ⟨[], true⟩ := ByteStream.sweep_of_error failed
        rw [right]
        rcases stops with ended | ⟨other, failed⟩
        · exact ByteStream.sweep_of_empty ended
        · exact ByteStream.sweep_of_error failed

/-- **A decoder whose delivered bytes are a function of its input,** where that is a beginning
of `content`.  For a beginning it delivers a beginning of what it delivers for the whole. -/
structure Decoder.DeliversBy (decoder : Decoder) (content : Bytes) (deliver : Bytes → Bytes) :
    Prop where
  delivers : ∀ (base : ByteStream) (lead : Bytes), lead <+: content → base.Shows (some lead) →
    (base.decoded decoder).Delivers (deliver lead)
  begins : ∀ lead, lead <+: content → deliver lead <+: deliver content

/-- The base64 decoder is such a decoder for every text without a flaw. -/
theorem Decoder.base64_deliversBy {text : Bytes} (unflawed : ¬ Base64.Flawed text) :
    base64.DeliversBy text fun lead => (Base64.flow ⟨lead, none⟩).bytes where
  delivers base lead beginning shown := by
    have clean := (Base64.prefix_of_unflawed beginning unflawed).1
    have brings : base.Brings False ⟨lead, none⟩ := Reader.brings_iff_shows.mpr shown
    exact ByteStream.Brings.delivers (Reader.Brings.mono clean (base64_brings brings))
  begins _ beginning := (Base64.prefix_of_unflawed beginning unflawed).2

/-- A view of which nothing has been decoded delivers what its decoder makes of what it sees. -/
theorem Decoder.DeliversBy.delivers_of_shows {decoder : Decoder} {content lead : Bytes}
    {deliver : Bytes → Bytes} (function : decoder.DeliversBy content deliver)
    (beginning : lead <+: content) {σ : Type} {kind : StreamKind σ} {input : Rationed σ}
    (shown : (Rationed.reader kind.toReader).Shows input (some lead)) :
    (⟨Decoded.kind decoder kind, ⟨input, none⟩⟩ : ByteStream).Delivers (deliver lead) := by
  have alone := function.delivers ⟨Rationed.kind kind, input⟩ lead beginning shown
  have mirrors : Decoded.Mirrors (⟨input, none⟩ : Decoded decoder.machine.State σ)
      ⟨⟨input, none, 0, false⟩, none⟩ := ⟨rfl, rfl, rfl, rfl⟩
  intro sizes positive
  rw [mirrors.sweep_eq]
  exact alone sizes positive

/-- **Under a limit** a fresh view delivers what its decoder makes of the encoded content up to
the budget, whatever stream it is on. -/
theorem Decoder.DeliversBy.delivers_limited {decoder : Decoder} {content : Bytes}
    {deliver : Bytes → Bytes} (function : decoder.DeliversBy content deliver) {base : ByteStream}
    {limit : Nat} (shown : (base.setLimit (some (decoder.outerLimit limit))).Shows (some content)) :
    ((base.decoded decoder).setLimit (some limit)).Delivers
      (deliver (content.take (decoder.outerLimit limit))) := by
  obtain ⟨kind, s⟩ := base
  exact function.delivers_of_shows (List.take_prefix _ content)
    (Rationed.shows_of_budget rfl shown)

section Limited

variable {σ : Type} (kind : StreamKind σ) (stands : Option Nat → Nat → σ → Prop)
  (decoder : Decoder)

/-- **A view of which nothing has been read** since it was built or rewound, on a stream at its
first byte.  Both may have any limits. -/
inductive ByteStream.Afresh : ByteStream → Prop
  | intro {s : σ} {earlier budget : Option Nat} (first : stands earlier 0 s) :
      Afresh ⟨Decoded.kind decoder kind, ⟨⟨s, budget, 0, false⟩, none⟩⟩

/-- **A view within its budget,** whatever has been read of it. -/
inductive ByteStream.Bounded (budget : Option Nat) : ByteStream → Prop
  | intro {s : Decoded decoder.machine.State σ} (input : s.input.Stands stands budget) :
      Bounded budget ⟨Decoded.kind decoder kind, s⟩

variable {kind stands decoder} {content : Bytes} {deliver : Bytes → Bytes}
  (retains : kind.Retains content stands) {budget : Option Nat} {view : ByteStream}

/-- A view built on a stream at its first byte is one of which nothing has been read. -/
theorem ByteStream.afresh_decoded {s : σ} {limit : Option Nat} (first : stands limit 0 s) :
    ((⟨kind, s⟩ : ByteStream).decoded decoder).Afresh kind stands decoder := .intro first

namespace ByteStream.Bounded

/-- Lifting the limit leaves a view within its budget, which is then none. -/
theorem lift (retains : kind.Retains content stands)
    (bounded : view.Bounded kind stands decoder budget) :
    (view.setLimit none).Bounded kind stands decoder none := by
  obtain ⟨input⟩ := bounded
  exact .intro ⟨rfl, retains.lift input.base, nofun⟩

include retains

/-- **A use keeps a view within its budget.** -/
theorem use (bounded : view.Bounded kind stands decoder budget) (use : Use) :
    (use.apply view).Bounded kind stands decoder budget := by
  obtain ⟨input⟩ := bounded
  cases use with
  | read amount =>
      exact .intro (Decoded.read_preserves_input decoder kind.toReader _
        (fun n _ stood => stood.read retains n) amount _ input)
  | rewind =>
      exact .intro ⟨input.given, (retains.rewind input.base).2, fun _ _ => Nat.zero_le _⟩

/-- Any uses keep a view within its budget. -/
theorem uses (bounded : view.Bounded kind stands decoder budget) (uses : List Use) :
    (uses.foldl (fun stream use => use.apply stream) view).Bounded kind stands decoder
      budget := by
  induction uses generalizing view with
  | nil => exact bounded
  | cons first later ih => exact ih (bounded.use retains first)

variable (function : decoder.DeliversBy content deliver)
include function

/-- At its first byte a view within its budget delivers what its decoder makes of the content
that the budget allows. -/
theorem delivers_of_first {input : Rationed σ} (stood : input.Stands stands budget)
    (first : input.consumed = 0) :
    (⟨Decoded.kind decoder kind, ⟨input, none⟩⟩ : ByteStream).Delivers
      (deliver (Rationed.window budget content)) := by
  have shown := stood.shows retains
  rw [first, List.drop_zero] at shown
  exact function.delivers_of_shows (Rationed.window_prefix budget content) shown

/-- **A rewind leads back to that first byte.** -/
theorem rewind (bounded : view.Bounded kind stands decoder budget) :
    view.rewind.1 = .ok () ∧
      view.rewind.2.Delivers (deliver (Rationed.window budget content)) := by
  obtain ⟨input⟩ := bounded
  obtain ⟨rewound, first⟩ := retains.rewind input.base
  exact ⟨rewound, delivers_of_first retains function
    ⟨input.given, first, fun _ _ => Nat.zero_le _⟩ rfl⟩

end ByteStream.Bounded

/-- **A limited view is a beginning that can be replayed.**  Under a limit a view delivers a
beginning of what its decoder makes of the whole content.  After any requests and rewinds a
further rewind leads back to the same beginning, and a rewind without the limit to the
whole. -/
theorem ByteStream.Afresh.limited_replays {σ : Type} {kind : StreamKind σ} {content : Bytes}
    {stands : Option Nat → Nat → σ → Prop} (retains : kind.Retains content stands)
    {decoder : Decoder} {deliver : Bytes → Bytes} (function : decoder.DeliversBy content deliver)
    {view : ByteStream} (afresh : view.Afresh kind stands decoder) (limit : Nat) :
    let cut := deliver (content.take (decoder.outerLimit limit))
    cut <+: deliver content ∧ (view.setLimit (some limit)).Delivers cut ∧
      ∀ uses : List Use,
        let after := uses.foldl (fun stream use => use.apply stream) (view.setLimit (some limit))
        after.rewind.1 = .ok () ∧ after.rewind.2.Delivers cut ∧
          (after.setLimit none).rewind.1 = .ok () ∧
          (after.setLimit none).rewind.2.Delivers (deliver content) := by
  obtain ⟨first⟩ := afresh
  rename_i s earlier budget
  have stood : Rationed.Stands stands (some (decoder.outerLimit limit))
      ⟨kind.limit (some (decoder.outerLimit limit)) s, some (decoder.outerLimit limit), 0,
        false⟩ := ⟨rfl, retains.limit _ first, fun _ _ => Nat.zero_le _⟩
  refine ⟨function.begins _ (List.take_prefix _ content), ?_, fun uses => ?_⟩
  · exact Bounded.delivers_of_first retains function stood rfl
  · have start : Bounded kind stands decoder (some (decoder.outerLimit limit))
        ((⟨Decoded.kind decoder kind, ⟨⟨s, budget, 0, false⟩, none⟩⟩ : ByteStream).setLimit
          (some limit)) := .intro stood
    have after := start.uses retains uses
    obtain ⟨rewound, again⟩ := after.rewind retains function
    obtain ⟨back, whole⟩ := (after.lift retains).rewind retains function
    exact ⟨rewound, again, back, whole⟩

end Limited

/-- The base64 of the five bytes `hijhi` behind a replay buffer. -/
def fiveBytes : Bytes := [0x61, 0x47, 0x6C, 0x71, 0x61, 0x47, 0x6B, 0x3D]

/-- The view of those five bytes, with nothing read. -/
def fiveBytesView : ByteStream :=
  (ByteStream.buffered Cursor.kind.toReader (.start fiveBytes) none).decoded .base64

/-- A limit of one byte allows six symbols, which write three bytes. -/
theorem ByteStream.Afresh.limited_replays_fiveBytes :
    (Buffered.kind Cursor.kind.toReader).Retains fiveBytes
        (Buffered.Stands Cursor.kind.toReader fiveBytes) ∧
      Decoder.base64.DeliversBy fiveBytes (fun lead => (Base64.flow ⟨lead, none⟩).bytes) ∧
      fiveBytesView.Afresh (Buffered.kind Cursor.kind.toReader)
        (Buffered.Stands Cursor.kind.toReader fiveBytes) .base64 ∧
      (fiveBytesView.setLimit (some 1)).Delivers [0x68, 0x69, 0x6A] ∧
      ((Use.read 2).apply (fiveBytesView.setLimit (some 1))).rewind.2.Delivers
        [0x68, 0x69, 0x6A] := by
  have retains := Buffered.retains Cursor.kind.toReader fiveBytes
  have unflawed : ¬ Base64.Flawed fiveBytes := by decide
  have function := Decoder.base64_deliversBy unflawed
  have shown : Cursor.kind.toReader.Shows (.start fiveBytes) (some fiveBytes) := Cursor.shows _
  have first : Buffered.Stands Cursor.kind.toReader fiveBytes none 0
      (.start (.start fiveBytes) none) := ⟨Buffered.left_start shown none, rfl, rfl, rfl⟩
  have afresh : fiveBytesView.Afresh _ _ _ := ByteStream.afresh_decoded first
  have cut : (Base64.flow ⟨fiveBytes.take (Decoder.base64.outerLimit 1), none⟩).bytes =
      [0x68, 0x69, 0x6A] := by decide
  obtain ⟨-, delivers, replays⟩ :=
    ByteStream.Afresh.limited_replays retains function afresh 1
  rw [cut] at delivers replays
  exact ⟨retains, function, afresh, delivers, (replays [.read 2]).2.1⟩

end Discern
