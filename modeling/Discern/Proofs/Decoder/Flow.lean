import Discern.Proofs.Decoder.Output
import Discern.Proofs.Stream.Flow

/-!
# What a decoding machine makes of a flow

An account of a machine's output (`Machine.Yields`) says of an output that cannot be read to
its end no more than that.  An account of flows says which bytes come before the fault and
which fault it is.  As before it is an account of single moves (`Machine.Turns`), which is
carried through the moves of a request (`Machine.Turns.drive`) and through all requests to a
view (`Machine.Turns.brings`).

A machine that decodes ahead may meet a fault before it has handed out what comes before it;
then its views fail early.  Its input must not.
-/

namespace Discern

/-- **A move that agrees with an account** of what the input `rest` is turned into, for a
request of `n` bytes.  Where `early` holds, the machine may fail before the bytes that the
request asks for were handed out.  A fault of the input is answered with a fault at once. -/
def Move.Conforms {σ : Type} (early : Prop) (turns : σ → Flow → Flow → Prop) (n : Nat)
    (serving : σ → Move σ Bytes) (rest output : Flow) : Move σ Bytes → Prop
  | .answer (.ok bytes) next =>
    (∃ later, output.bytes = bytes ++ later ∧ turns next rest ⟨later, output.fault⟩) ∧
      (bytes = [] → n ≠ 0 → output = ⟨[], none⟩)
  | .answer (.error fault) _ =>
    output.fault = some fault ∧ (output.bytes = [] ∨ early ∧ output.bytes.length < n)
  | .think next => turns next rest output
  | .pull amount next =>
    amount ≠ 0 ∧
    (∀ bytes later, rest.bytes = bytes ++ later → (bytes = [] → rest = ⟨[], none⟩) →
      turns (next (.ok bytes)) ⟨later, rest.fault⟩ output) ∧
    ∀ fault, rest = ⟨[], some fault⟩ → ∃ other last, output = ⟨[], some other⟩ ∧
      serving (next (.error fault)) = .answer (.error other) last

/-- **An account of what a machine makes of its input:** `turns s rest output` says that in
state `s` it turns the input `rest` into `output`. -/
def Machine.Turns (m : Machine) (early : Prop) (turns : m.State → Flow → Flow → Prop) : Prop :=
  ∀ n s rest output, turns s rest output →
    (m.serving n s).Conforms early turns n (m.serving n) rest output

namespace Machine.Turns

section Drive

variable {m : Machine} {early : Prop} {turns : m.State → Flow → Flow → Prop}
  (account : m.Turns early turns)
include account

/-- A request to a machine is served as the account says. -/
theorem drive {β : Type} {input : Reader β} {n : Nat} {s : m.State} {b : β} {rest output : Flow}
    (here : turns s rest output) (brings : input.Brings False b rest) :
    (∀ bytes, (m.serve n input s b).1 = .ok bytes →
      (∃ later, output.bytes = bytes ++ later ∧
        ∃ rest, turns (m.serve n input s b).2.1 rest ⟨later, output.fault⟩ ∧
          input.Brings False (m.serve n input s b).2.2 rest) ∧
      (bytes = [] → n ≠ 0 → output = ⟨[], none⟩)) ∧
    ∀ fault, (m.serve n input s b).1 = .error fault →
      output.fault = some fault ∧ (output.bytes = [] ∨ early ∧ output.bytes.length < n) := by
  rw [serve]
  fun_induction Machine.drive m.books List.length (m.serving n) (m.serving_keeps n) input s b
      generalizing rest with
  | case1 s b result next answers =>
      have conforms := account n s rest output here
      rw [answers] at conforms
      constructor
      · rintro bytes rfl
        obtain ⟨⟨later, split, further⟩, ends⟩ := conforms
        exact ⟨⟨later, split, rest, further, brings⟩, ends⟩
      · rintro fault rfl
        exact conforms
  | case2 s b next thinks ih =>
      have conforms := account n s rest output here
      rw [thinks] at conforms
      exact ih conforms brings
  | case3 s b amount next pulls got after reads ih =>
      have conforms := account n s rest output here
      rw [pulls] at conforms
      obtain ⟨asked, further, lost⟩ := conforms
      cases got with
      | ok bytes =>
          obtain ⟨⟨later, split, brings⟩, ends⟩ := brings.ok (congrArg Prod.fst reads)
          rw [reads] at brings
          exact ih (further bytes later split fun empty => ends empty asked) brings
      | error fault =>
          -- The machine answers a fault at once, so the drive ends with its next move.
          obtain ⟨other, last, broken, answers⟩ :=
            lost fault (brings.error_of_late (congrArg Prod.fst reads))
          rw [Machine.drive_of_answer answers]
          constructor
          · intro bytes served
            cases served
          · intro fault failed
            obtain rfl := Except.error.inj failed
            rw [broken]
            exact ⟨rfl, .inl rfl⟩

end Drive

section View

variable {decoder : Decoder} {early : Prop} {turns : decoder.machine.State → Flow → Flow → Prop}
  (account : decoder.machine.Turns early turns)
include account

/-- A request to an uncut view is served as the account says. -/
theorem serve {β : Type} {below : Reader β} {n : Nat} {work : decoder.machine.State}
    {input : Rationed β} {rest output : Flow} (here : turns work rest output)
    (brings : (Rationed.reader below).Brings False input rest)
    (uncut : (Decoded.serve decoder below n work input).2.input.truncated = false) :
    (∀ bytes, (Decoded.serve decoder below n work input).1 = .ok bytes →
      (∃ later, output.bytes = bytes ++ later ∧
        ∃ next rest, (Decoded.serve decoder below n work input).2.work = some next ∧
          turns next rest ⟨later, output.fault⟩ ∧ (Rationed.reader below).Brings False
            (Decoded.serve decoder below n work input).2.input rest) ∧
      (bytes = [] → n ≠ 0 → output = ⟨[], none⟩)) ∧
    ∀ fault, (Decoded.serve decoder below n work input).1 = .error fault →
      output.fault = some fault ∧ (output.bytes = [] ∨ early ∧ output.bytes.length < n) := by
  obtain ⟨answered, failed⟩ := account.drive (n := n) here brings
  rw [Decoded.serve] at uncut ⊢
  generalize decoder.machine.serve n (Rationed.reader below) work input = outcome
    at answered failed uncut ⊢
  obtain ⟨fault | bytes, next, after⟩ := outcome
  · have whole : after.truncated = false := uncut
    simp only [whole, Bool.false_eq_true, ↓reduceIte]
    constructor
    · intro bytes served
      cases served
    · intro other same
      obtain rfl : fault = other := Except.error.inj same
      exact failed fault rfl
  · constructor
    · intro other same
      obtain rfl : bytes = other := Except.ok.inj same
      obtain ⟨⟨later, split, rest, further, brings⟩, ends⟩ := answered bytes rfl
      exact ⟨⟨later, split, next, rest, rfl, further, brings⟩, ends⟩
    · intro fault served
      cases served

/-- **What a decoded view brings** is what its machine makes of what the stream below
brings, if it begins at once. -/
theorem brings {start : decoder.machine.State}
    (begins : decoder.machine.opening decoder.machine.fresh = .answer (.ok ()) start)
    {base : ByteStream} {flow output : Flow} (below : base.Brings False flow)
    (here : turns start flow output) : (base.decoded decoder).Brings early output := by
  obtain ⟨kind, s⟩ := base
  have begun : ∀ n s, (Decoded.kind decoder kind).read n s =
      Decoded.serve decoder kind.toReader n (s.work.getD start) s.input :=
    Decoded.read_of_begins begins kind.toReader
  have bringing : (Decoded.kind decoder kind).toReader.Bringing early fun s output =>
      s.input.Uncut ∧ ∃ rest, turns (s.work.getD start) rest output ∧
        (Rationed.reader kind.toReader).Brings False s.input rest := by
    constructor
    · rintro s output n bytes ⟨uncut, rest, here, brings⟩ answered
      have after : ((Decoded.kind decoder kind).read n s).2.input.Uncut := uncut.decoded n
      rw [begun] at answered after ⊢
      obtain ⟨⟨later, split, next, rest, working, further, brings⟩, ends⟩ :=
        (account.serve here brings after.2).1 bytes answered
      refine ⟨⟨later, split, after, rest, ?_, brings⟩, ends⟩
      rwa [working]
    · rintro s output n fault ⟨uncut, rest, here, brings⟩ failed
      have after : ((Decoded.kind decoder kind).read n s).2.input.Uncut := uncut.decoded n
      rw [begun] at failed after
      exact (account.serve here brings after.2).2 fault failed
  exact ⟨_, bringing, ⟨rfl, rfl⟩, flow, here, Rationed.brings rfl below⟩

end View

end Machine.Turns

end Discern
