import Discern.Proofs.Stream.Restoration

/-!
# The output of a decoding machine

What a decoded view shows follows from an account of what its machine brings: a relation
between states, the input that is still to come, and the output that is still to be handed
out, with which every single move agrees (`Machine.Yields`).  The account is carried through
the moves of a request (`Machine.Yields.drive`), and through all requests to a view
(`Machine.Yields.shows`).
-/

namespace Discern

section Moves

variable {σ α β : Type} {books : Books σ} {size : α → Nat} {step : σ → Move σ α}
  {keeps : ∀ s, books.Keeps size s (step s)} {input : Reader β} {s next : σ} {b : β}

/-- A machine that answers is done. -/
theorem Machine.drive_of_answer {result : Except Fault α} (answers : step s = .answer result next) :
    drive books size step keeps input s b = (result, next, b) := by
  rw [drive, answers]

/-- A machine that thinks goes on without input. -/
theorem Machine.drive_of_think (thinks : step s = .think next) :
    drive books size step keeps input s b = drive books size step keeps input next b := by
  rw [drive, thinks]

/-- A machine that pulls goes on with what the input brings. -/
theorem Machine.drive_of_pull {amount : Nat} {next : Except Fault Bytes → σ}
    (pulls : step s = .pull amount next) :
    drive books size step keeps input s b =
      drive books size step keeps input (next (input.read amount b).1)
        (input.read amount b).2 := by
  rw [drive, pulls]

end Moves

section Serve

variable {β : Type} {decoder : Decoder} {below : Reader β} {n : Nat}
  {work next : decoder.machine.State} {input after : Rationed β}

/-- A request for which the machine pulls is served from the next state of machine and input. -/
theorem Decoded.serve_of_pull {amount : Nat} {got : Except Fault Bytes}
    {next : Except Fault Bytes → decoder.machine.State}
    (pulls : decoder.machine.serving n work = .pull amount next)
    (reads : Rationed.read below amount input = (got, after)) :
    serve decoder below n work input = serve decoder below n (next got) after := by
  have got_eq := congrArg Prod.fst reads
  have after_eq := congrArg Prod.snd reads
  rw [serve, serve, Machine.serve, Machine.serve, Machine.drive_of_pull pulls]
  subst got_eq after_eq
  rfl

/-- A request that the machine answers is served with its answer, if the input was not cut. -/
theorem Decoded.serve_of_answer {result : Except Fault Bytes}
    (answers : decoder.machine.serving n work = .answer result next)
    (uncut : input.truncated = false) :
    serve decoder below n work input = (result, ⟨input, some next⟩) := by
  rw [serve, Machine.serve, Machine.drive_of_answer answers]
  cases result with
  | ok bytes => rfl
  | error fault => exact Prod.ext (if_neg (Bool.eq_false_iff.mp uncut)) rfl

end Serve

/-- An input that no budget has cut off. -/
def Rationed.Uncut {β : Type} (input : Rationed β) : Prop :=
  input.budget = none ∧ input.truncated = false

/-- An input without a budget stays uncut when it is read. -/
theorem Rationed.Uncut.read {β : Type} {input : Rationed β} (uncut : input.Uncut)
    (below : Reader β) (n : Nat) : (Rationed.read below n input).2.Uncut := by
  rw [read_of_unlimited uncut.1]
  exact uncut

/-- So does the input of a view. -/
theorem Rationed.Uncut.decoded {β : Type} {decoder : Decoder} {below : Reader β}
    {s : Decoded decoder.machine.State β} (uncut : s.input.Uncut) (n : Nat) :
    (Decoded.read decoder below n s).2.input.Uncut :=
  Decoded.read_preserves_input decoder below _ (fun n _ uncut => uncut.read below n) n s uncut

/-- **A move that agrees with an account** of what is brought for a request of `n` bytes.
Before the input `rest` the account is `output`, where again `none` is what cannot be read to
its end.  A fault of the input is answered with a fault at once. -/
def Move.Agrees {σ : Type} (yields : σ → Option Bytes → Option Bytes → Prop) (n : Nat)
    (serving : σ → Move σ Bytes) (rest output : Option Bytes) : Move σ Bytes → Prop
  | .answer (.ok bytes) next =>
    (∃ later, output = later.map (bytes ++ ·) ∧ yields next rest later) ∧
      (bytes = [] → n ≠ 0 → output = some [])
  | .answer (.error _) _ => output = none
  | .think next => yields next rest output
  | .pull amount next =>
    amount ≠ 0 ∧
    (∀ bytes later, rest = later.map (bytes ++ ·) → (bytes = [] → rest = some []) →
      yields (next (.ok bytes)) later output) ∧
    (rest = none → output = none ∧
      ∀ fault, ∃ other last, serving (next (.error fault)) = .answer (.error other) last)

/-- **An account of what a machine brings:** `yields s rest output` says that in state `s`,
before the input `rest`, it brings `output`. -/
def Machine.Yields (m : Machine) (yields : m.State → Option Bytes → Option Bytes → Prop) :
    Prop :=
  ∀ n s rest output, yields s rest output →
    (m.serving n s).Agrees yields n (m.serving n) rest output

namespace Machine.Yields

variable {m : Machine} {yields : m.State → Option Bytes → Option Bytes → Prop}
  (account : m.Yields yields)
include account

/-- A request to a machine is served as the account says. -/
theorem drive {β : Type} {input : Reader β} {n : Nat} {s : m.State} {b : β}
    {rest output : Option Bytes} (here : yields s rest output) (shown : input.Shows b rest) :
    (∀ bytes, (m.serve n input s b).1 = .ok bytes →
      (∃ later, output = later.map (bytes ++ ·) ∧
        ∃ rest, yields (m.serve n input s b).2.1 rest later ∧
          input.Shows (m.serve n input s b).2.2 rest) ∧
      (bytes = [] → n ≠ 0 → output = some [])) ∧
    ∀ fault, (m.serve n input s b).1 = .error fault → output = none := by
  rw [serve]
  fun_induction Machine.drive m.books List.length (m.serving n) (m.serving_keeps n) input s b
      generalizing rest with
  | case1 s b result next answers =>
      have agrees := account n s rest output here
      rw [answers] at agrees
      constructor
      · rintro bytes rfl
        obtain ⟨⟨later, same, further⟩, ends⟩ := agrees
        exact ⟨⟨later, same, rest, further, shown⟩, ends⟩
      · rintro fault rfl
        exact agrees
  | case2 s b next thinks ih =>
      have agrees := account n s rest output here
      rw [thinks] at agrees
      exact ih agrees shown
  | case3 s b amount next pulls got after reads ih =>
      have agrees := account n s rest output here
      rw [pulls] at agrees
      obtain ⟨asked, further, lost⟩ := agrees
      cases got with
      | ok bytes =>
          obtain ⟨⟨later, same, shown⟩, ends⟩ := shown.ok (congrArg Prod.fst reads)
          rw [reads] at shown
          exact ih (further bytes later same fun empty => ends empty asked) shown
      | error fault =>
          obtain rfl : rest = none :=
            (Reader.delivery_shows input).error shown (congrArg Prod.fst reads)
          -- The machine answers a fault at once, so the drive ends with its next move.
          obtain ⟨broken, refuses⟩ := lost rfl
          obtain ⟨other, last, answers⟩ := refuses fault
          rw [Machine.drive_of_answer answers]
          refine ⟨fun bytes answered => ?_, fun _ _ => broken⟩
          cases answered

end Machine.Yields

section Begin

variable {β : Type} {decoder : Decoder} {start : decoder.machine.State}
  (begins : decoder.machine.opening decoder.machine.fresh = .answer (.ok ()) start)
include begins

/-- A decoder that begins at once serves every request from where it stands. -/
theorem Decoded.read_of_begins (below : Reader β) (n : Nat)
    (s : Decoded decoder.machine.State β) :
    read decoder below n s = serve decoder below n (s.work.getD start) s.input := by
  have opens : decoder.machine.open? (Rationed.reader below) s.input =
      (.ok (), start, s.input) := by
    rw [Machine.open?, Machine.drive_of_answer begins]
  rw [read, opens]
  cases s.work <;> rfl

end Begin

section View

variable {decoder : Decoder}
  {yields : decoder.machine.State → Option Bytes → Option Bytes → Prop}
  (account : decoder.machine.Yields yields)
include account

/-- A fault of an uncut view stems from its machine. -/
theorem Machine.Yields.serve {β : Type} {below : Reader β} {n : Nat}
    {work : decoder.machine.State} {input : Rationed β} {rest output : Option Bytes}
    (here : yields work rest output) (shown : (Rationed.reader below).Shows input rest)
    (uncut : (Decoded.serve decoder below n work input).2.input.truncated = false) :
    (∀ bytes, (Decoded.serve decoder below n work input).1 = .ok bytes →
      (∃ later, output = later.map (bytes ++ ·) ∧
        ∃ next rest, (Decoded.serve decoder below n work input).2.work = some next ∧
          yields next rest later ∧
          (Rationed.reader below).Shows (Decoded.serve decoder below n work input).2.input rest) ∧
      (bytes = [] → n ≠ 0 → output = some [])) ∧
    ∀ fault, (Decoded.serve decoder below n work input).1 = .error fault → output = none := by
  obtain ⟨answered, failed⟩ := account.drive (n := n) here shown
  rw [Decoded.serve] at uncut ⊢
  generalize decoder.machine.serve n (Rationed.reader below) work input = outcome
    at answered failed uncut ⊢
  obtain ⟨fault | bytes, next, after⟩ := outcome
  · have whole : after.truncated = false := uncut
    simp only [whole, Bool.false_eq_true, ↓reduceIte]
    refine ⟨fun bytes served => ?_, fun _ _ => failed fault rfl⟩
    cases served
  · constructor
    · intro other same
      obtain rfl : bytes = other := Except.ok.inj same
      obtain ⟨⟨later, split, rest, further, shown⟩, ends⟩ := answered bytes rfl
      exact ⟨⟨later, split, next, rest, rfl, further, shown⟩, ends⟩
    · intro fault served
      cases served

/-- **What a decoded view shows** is what its machine yields, if it begins at once. -/
theorem Machine.Yields.shows {start : decoder.machine.State}
    (begins : decoder.machine.opening decoder.machine.fresh = .answer (.ok ()) start)
    {base : ByteStream} {content output : Option Bytes} (shown : base.Shows content)
    (here : yields start content output) : (base.decoded decoder).Shows output := by
  obtain ⟨below, s⟩ := base
  have begun : ∀ n s, (Decoded.kind decoder below).read n s =
      Decoded.serve decoder below.toReader n (s.work.getD start) s.input :=
    Decoded.read_of_begins begins below.toReader
  have delivery : (Decoded.kind decoder below).toReader.Delivery fun s output =>
      s.input.Uncut ∧ ∃ rest, yields (s.work.getD start) rest output ∧
        (Rationed.reader below.toReader).Shows s.input rest := by
    constructor
    · rintro s output n bytes ⟨uncut, rest, here, shown⟩ answered
      have after : ((Decoded.kind decoder below).read n s).2.input.Uncut :=
        uncut.decoded n
      rw [begun] at answered after ⊢
      obtain ⟨⟨later, split, next, rest, working, further, shown⟩, ends⟩ :=
        (account.serve here shown after.2).1 bytes answered
      refine ⟨⟨later, split, after, rest, ?_, shown⟩, ends⟩
      rwa [working]
    · rintro s output n fault ⟨uncut, rest, here, shown⟩ failed
      have after : ((Decoded.kind decoder below).read n s).2.input.Uncut :=
        uncut.decoded n
      rw [begun] at failed after
      exact (account.serve here shown after.2).2 fault failed
  exact delivery.shows ⟨⟨rfl, rfl⟩, content, here, Rationed.shows rfl shown⟩

end View

end Discern
