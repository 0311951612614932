import Discern.Proofs.Stream.History
import Discern.Proofs.Stream.LimitedView

/-!
# Faults behind a spent budget

Once its budget is spent a decoder is shown the end of its input, and may fail because of it.
A decoded view is meant to keep such faults to itself and to pass on all others.

What a decoder does is recorded on an input that keeps a journal: what it pulled since the last
rewind, and what it came to.  From the journal alone one can tell whether the budget was spent
(`Decoded.Spent`).  The view keeps its word on each request but one where the decoder fails to
open its input after the budget was spent: then it passes the fault on
(`Decoded.record_passes_on`).
-/

namespace Discern

namespace Decoded

/-- **What a decoder pulls** from its input, under the budget in force, and what it gets. -/
structure Pull where
  budget : Option Nat
  amount : Nat
  got : Except Fault Bytes

/-- An end that the decoder is shown because of the budget: it asks for something when all that
the budget allows was taken, which is `total` bytes. -/
def Pull.Denied (total : Nat) (pull : Pull) : Prop :=
  pull.amount ≠ 0 ∧ pull.got = .ok [] ∧ ∃ budget, pull.budget = some budget ∧ budget ≤ total

/-- **The budget was spent** in the course of some pulls, after `total` bytes before them. -/
def Spent (total : Nat) : List Pull → Prop
  | [] => False
  | pull :: later => pull.Denied total ∨ Spent (total + taken pull.got) later

/-- How many bytes pulls have brought. -/
def total : List Pull → Nat
  | [] => 0
  | pull :: later => taken pull.got + total later

theorem total_append (pulls : List Pull) (pull : Pull) :
    total (pulls ++ [pull]) = total pulls + taken pull.got := by
  induction pulls with
  | nil => exact Nat.add_comm _ _
  | cons first pulls ih => rw [List.cons_append, total, total, ih, Nat.add_assoc]

/-- One more pull spends the budget if it is denied, unless the budget was spent before. -/
theorem spent_append (before : Nat) (pulls : List Pull) (pull : Pull) :
    Spent before (pulls ++ [pull]) ↔ Spent before pulls ∨ pull.Denied (before + total pulls) := by
  induction pulls generalizing before with
  | nil => simp [Spent, total]
  | cons first pulls ih => rw [List.cons_append, Spent, Spent, total, ih, or_assoc, Nat.add_assoc]

/-- **What a decoder comes to** with a request. -/
inductive Upshot where
  /-- It fails when it opens its input. -/
  | refused (fault : Fault)
  /-- It fails when it serves the request. -/
  | failed (fault : Fault)
  | served (bytes : Bytes)

/-- The fault, if it fails. -/
def Upshot.fault? : Upshot → Option Fault
  | refused fault => some fault
  | failed fault => some fault
  | served _ => none

section Upshot

variable {β : Type} (decoder : Decoder) (below : Reader β)

/-- An input that keeps a journal of what is pulled from it. -/
def journal : Reader (Rationed β × List Pull) where
  read n s := ((Rationed.read below n s.1).1, (Rationed.read below n s.1).2,
    s.2 ++ [⟨s.1.budget, n, (Rationed.read below n s.1).1⟩])
  supply s := below.supply s.1.base
  taken_le n s := Rationed.taken_read_le below n s.1
  spends n s := Rationed.read_spends below n s.1

/-- Let the decoder serve a request, after some pulls. -/
def serveAlone (n : Nat) (work : decoder.machine.State) (input : Rationed β × List Pull) :
    Upshot × List Pull :=
  match decoder.machine.serve n (journal below) work input with
  | (.ok bytes, _, _, pulls) => (.served bytes, pulls)
  | (.error fault, _, _, pulls) => (.failed fault, pulls)

/-- **The decoder of a view by itself** at work on a request, after some pulls. -/
def readAlone (n : Nat) (s : Decoded decoder.machine.State β) (pulls : List Pull) :
    Upshot × List Pull :=
  match s.work with
  | some work => serveAlone decoder below n work (s.input, pulls)
  | none =>
    match decoder.machine.open? (journal below) (s.input, pulls) with
    | (.ok (), work, input) => serveAlone decoder below n work input
    | (.error fault, _, _, pulls) => (.refused fault, pulls)

variable {decoder below} {n : Nat} {s : Decoded decoder.machine.State β} {pulls : List Pull}
  {work next : decoder.machine.State} {input after : Rationed β × List Pull} {fault : Fault}

/-- A decoder that fails to serve has failed, with what it pulled until then. -/
theorem serveAlone_of_error
    (fails : decoder.machine.serve n (journal below) work input = (.error fault, next, after)) :
    serveAlone decoder below n work input = (.failed fault, after.2) := by
  rw [serveAlone, fails]

/-- A decoder that opens its input goes on to serve the request. -/
theorem readAlone_of_open (fresh : s.work = none)
    (opens : decoder.machine.open? (journal below) (s.input, pulls) = (.ok (), work, input)) :
    readAlone decoder below n s pulls = serveAlone decoder below n work input := by
  rw [readAlone, fresh]
  dsimp only
  rw [opens]

/-- A decoder that fails to open its input has refused, and serves nothing. -/
theorem readAlone_of_error (fresh : s.work = none)
    (fails : decoder.machine.open? (journal below) (s.input, pulls) =
      (.error fault, work, input)) :
    readAlone decoder below n s pulls = (.refused fault, input.2) := by
  rw [readAlone, fresh]
  dsimp only
  rw [fails]

end Upshot

/-- **What came of a request** to a view: what its decoder has pulled since the last rewind,
what the decoder came to, and what the view answered. -/
structure Record where
  pulls : List Pull
  upshot : Upshot
  answer : Except Fault Bytes

/-- **Serve requests** and record what came of those for bytes. -/
def record {β : Type} (decoder : Decoder) (below : StreamKind β) :
    List Request → Decoded decoder.machine.State β → List Pull → List Record
  | [], _, _ => []
  | .read n :: rest, s, pulls =>
    let (upshot, pulls) := readAlone decoder below.toReader n s pulls
    let (answer, s) := (kind decoder below).read n s
    ⟨pulls, upshot, answer⟩ :: record decoder below rest s pulls
  | .rewind :: rest, s, _ => record decoder below rest ((kind decoder below).rewind s).2 []
  | .limit bound :: rest, s, pulls =>
    record decoder below rest ((kind decoder below).limit bound s) pulls

/-- A request for bytes leaves a record, and the state and the pulls for the next. -/
theorem record_read {β : Type} {decoder : Decoder} {below : StreamKind β} (n : Nat)
    (rest : List Request) (s : Decoded decoder.machine.State β) (pulls : List Pull) :
    record decoder below (.read n :: rest) s pulls =
      ⟨(readAlone decoder below.toReader n s pulls).2,
          (readAlone decoder below.toReader n s pulls).1, ((kind decoder below).read n s).1⟩ ::
        record decoder below rest ((kind decoder below).read n s).2
          (readAlone decoder below.toReader n s pulls).2 := rfl

/-- **What a view is meant to do** with a fault: to keep it if the budget was spent, and to pass
it on if not. -/
def Record.Discreet (record : Record) : Prop :=
  ∀ fault, record.upshot.fault? = some fault →
    (Spent 0 record.pulls → record.answer = .ok []) ∧
      (¬ Spent 0 record.pulls → record.answer = .error fault)

/-- **What a view does:** it passes on what its decoder came to, but keeps a fault of serving
if the budget was spent. -/
def Record.PassesOn (record : Record) : Prop :=
  match record.upshot with
  | .refused fault => record.answer = .error fault
  | .failed fault =>
    (Spent 0 record.pulls → record.answer = .ok []) ∧
      (¬ Spent 0 record.pulls → record.answer = .error fault)
  | .served bytes => record.answer = .ok bytes

/-- An input whose state is what its journal says. -/
structure Tallies {β : Type} (input : Rationed β) (pulls : List Pull) : Prop where
  consumed : input.consumed = total pulls
  truncated : input.truncated = true ↔ Spent 0 pulls

section Tallies

variable {β : Type} {below : Reader β} {input : Rationed β} {pulls : List Pull}

/-- A pull is counted by the input as it is by the journal. -/
theorem Tallies.read (tallies : Tallies input pulls) (n : Nat) :
    Tallies (Rationed.read below n input).2
      (pulls ++ [⟨input.budget, n, (Rationed.read below n input).1⟩]) := by
  obtain ⟨consumed, truncated⟩ := tallies
  by_cases spent : input.allowance n = 0 ∧ n ≠ 0
  · rw [Rationed.read_of_spent spent]
    refine ⟨by rw [total_append]; exact consumed, iff_of_true rfl ?_⟩
    rw [spent_append, Nat.zero_add, ← consumed]
    refine .inr ⟨spent.2, rfl, ?_⟩
    cases given : input.budget with
    | none =>
        rw [Rationed.allowance, given] at spent
        exact absurd spent.1 spent.2
    | some budget =>
        rw [Rationed.allowance, given] at spent
        dsimp only at spent
        exact ⟨budget, rfl, by omega⟩
  · rw [Rationed.read_of_allowed spent]
    refine ⟨by rw [total_append, ← consumed], ?_⟩
    rw [spent_append, Nat.zero_add, ← consumed, truncated]
    refine (or_iff_left ?_).symm
    rintro ⟨more, -, budget, given, used⟩
    refine spent ⟨?_, more⟩
    rw [Rationed.allowance, show input.budget = some budget from given]
    dsimp only
    omega

/-- The journal changes nothing for the decoder. -/
theorem journal_alike (below : Reader β) (n : Nat) (input : Rationed β)
    (journaled : Rationed β × List Pull)
    (related : journaled.1 = input ∧ Tallies journaled.1 journaled.2) :
    ((Rationed.reader below).read n input).1 = ((journal below).read n journaled).1 ∧
      ((journal below).read n journaled).2.1 = ((Rationed.reader below).read n input).2 ∧
      Tallies ((journal below).read n journaled).2.1 ((journal below).read n journaled).2.2 := by
  obtain ⟨rfl, tallies⟩ := related
  exact ⟨rfl, rfl, tallies.read n⟩

end Tallies

section Request

variable {β : Type} {decoder : Decoder} {input : Rationed β} {pulls : List Pull}

/-- **Serving,** the view keeps a fault if and only if the budget was spent. -/
theorem Tallies.serve (tallies : Tallies input pulls) (below : Reader β) (n : Nat)
    (work : decoder.machine.State) :
    let (upshot, later) := serveAlone decoder below n work (input, pulls)
    Record.PassesOn ⟨later, upshot, (Decoded.serve decoder below n work input).1⟩ ∧
      Tallies (Decoded.serve decoder below n work input).2.input later := by
  obtain ⟨result, next, after, ⟨_, later⟩, one, two, rfl, counted⟩ :=
    Machine.serve_congr (journal_alike below) (c := (input, pulls)) ⟨rfl, tallies⟩ n work
  rw [Decoded.serve, serveAlone, one, two]
  cases result with
  | ok bytes => exact ⟨rfl, counted⟩
  | error fault =>
      refine ⟨⟨fun spent => ?_, fun unspent => ?_⟩, counted⟩
      · exact if_pos (counted.truncated.mpr spent)
      · exact if_neg fun cut => unspent (counted.truncated.mp cut)

/-- **A request** is answered as what the decoder comes to demands, and the journal goes on to
tell the state of the input. -/
theorem Tallies.request {s : Decoded decoder.machine.State β} (tallies : Tallies s.input pulls)
    (below : Reader β) (n : Nat) :
    let (upshot, later) := readAlone decoder below n s pulls
    Record.PassesOn ⟨later, upshot, (Decoded.read decoder below n s).1⟩ ∧
      Tallies (Decoded.read decoder below n s).2.input later := by
  obtain ⟨input, work⟩ := s
  cases work with
  | some work => exact tallies.serve below n work
  | none =>
      obtain ⟨result, next, after, ⟨_, later⟩, one, two, rfl, counted⟩ :=
        Machine.open_congr (journal_alike below) (c := (input, pulls)) ⟨rfl, tallies⟩
      rw [Decoded.read, readAlone]
      dsimp only
      rw [one, two]
      cases result with
      | ok done => exact Tallies.serve counted below n next
      | error fault => exact ⟨rfl, counted⟩

end Request

/-- What a view passes on keeps its promise but for a fault of opening behind a spent budget. -/
theorem Record.PassesOn.discreet_iff {record : Record} (passes : record.PassesOn) :
    record.Discreet ↔ ¬ (Spent 0 record.pulls ∧ ∃ fault, record.upshot = .refused fault) := by
  obtain ⟨pulls, upshot, answer⟩ := record
  cases upshot with
  | refused fault =>
      obtain rfl : answer = .error fault := passes
      constructor
      · rintro discreet ⟨spent, -⟩
        cases (discreet fault rfl).1 spent
      · rintro unspent other same
        obtain rfl := Option.some.inj same
        exact ⟨fun spent => absurd ⟨spent, fault, rfl⟩ unspent, fun _ => rfl⟩
  | failed fault =>
      refine iff_of_true ?_ fun refused => nomatch refused.2
      rintro other same
      obtain rfl := Option.some.inj same
      exact passes
  | served bytes => exact iff_of_true nofun fun refused => nomatch refused.2

/-- Before anything was pulled. -/
theorem tallies_start {β : Type} {base : β} {budget : Option Nat} :
    Tallies ⟨base, budget, 0, false⟩ [] :=
  ⟨rfl, Bool.false_ne_true.elim, False.elim⟩

/-- **What came of requests,** whatever they were. -/
theorem Tallies.record {β : Type} {decoder : Decoder} {below : StreamKind β}
    {s : Decoded decoder.machine.State β} {pulls : List Pull} (tallies : Tallies s.input pulls)
    {requests : List Request} {r : Record}
    (recorded : r ∈ Decoded.record decoder below requests s pulls) : r.PassesOn := by
  induction requests generalizing s pulls with
  | nil => cases recorded
  | cons request rest ih =>
      cases request with
      | read n =>
          obtain ⟨passes, counted⟩ := tallies.request below.toReader n
          rw [record_read] at recorded
          rcases List.mem_cons.mp recorded with rfl | later
          · exact passes
          · exact ih counted later
      | rewind => exact ih tallies_start recorded
      | limit bound =>
          have kept : Tallies ((kind decoder below).limit bound s).input pulls :=
            ⟨tallies.consumed, tallies.truncated⟩
          exact ih kept recorded

/-- **Faults behind a spent budget.**  Whatever decoder a view has, whatever stream it is on and
whatever is asked of it: what its decoder answers is passed on, and so is each fault, unless it
comes when a request is served and the budget was spent; then the view has come to its end.
This is what is meant to happen in all cases but one, a decoder that fails to open its input
after the budget was spent. -/
theorem record_passes_on (decoder : Decoder) (base : ByteStream) (requests : List Request)
    {r : Record}
    (recorded : r ∈ record decoder base.kind requests (base.decoded decoder).state []) :
    r.PassesOn ∧
      (r.Discreet ↔ ¬ (Spent 0 r.pulls ∧ ∃ fault, r.upshot = .refused fault)) := by
  have passes : r.PassesOn := tallies_start.record recorded
  exact ⟨passes, passes.discreet_iff⟩

/-- The symbols of a quad with a line end between them. -/
def brokenQuad : Bytes := [0x61, 0x47, 0x0A, 0x6C, 0x71]

/-- What the base64 decoder pulls from it with a budget of four bytes. -/
def brokenQuadPulls : List Pull :=
  [⟨some 4, 1024, .ok [0x61, 0x47, 0x0A, 0x6C]⟩, ⟨some 4, 1021, .ok []⟩]

/-- The end behind three symbols makes it fail. -/
theorem readAlone_brokenQuad :
    readAlone .base64 Cursor.kind.toReader 1 ⟨⟨.start brokenQuad, some 4, 0, false⟩, none⟩ [] =
      (.failed .badBase64, brokenQuadPulls) := by
  have opens : Decoder.base64.machine.open? (journal Cursor.kind.toReader)
      (⟨.start brokenQuad, some 4, 0, false⟩, []) =
        (.ok (), Base64.Work.fresh, (⟨.start brokenQuad, some 4, 0, false⟩, [])) :=
    Machine.drive_of_answer rfl
  have asks : Base64.machine.serving 1 Base64.Work.fresh =
      .pull 1024 Base64.Work.fresh.absorb := rfl
  have asks_more : Base64.machine.serving 1 ⟨[0x61, 0x47, 0x6C], [], false, .none⟩ =
      .pull 1021 (Base64.Work.mk [0x61, 0x47, 0x6C] [] false .none).absorb := rfl
  have fails : Base64.machine.serving 1 ⟨[0x61, 0x47, 0x6C], [], false, .dry⟩ =
      .answer (.error .badBase64) ⟨[0x61, 0x47, 0x6C], [], false, .none⟩ := rfl
  have serves : Decoder.base64.machine.serve 1 (journal Cursor.kind.toReader) Base64.Work.fresh
      (⟨.start brokenQuad, some 4, 0, false⟩, []) =
        (.error .badBase64, ⟨[0x61, 0x47, 0x6C], [], false, .none⟩,
          (⟨⟨brokenQuad, [0x71]⟩, some 4, 4, true⟩, brokenQuadPulls)) :=
    (Machine.drive_of_pull asks).trans
      ((Machine.drive_of_pull asks_more).trans (Machine.drive_of_answer fails))
  exact (readAlone_of_open rfl opens).trans (serveAlone_of_error serves)

/-- With a limit of no byte four bytes can be pulled.  The view keeps the fault of the unfinished
quad to itself. -/
theorem record_passes_on_brokenQuad :
    ∃ r ∈ record .base64 (ByteStream.ofBytes brokenQuad).kind [.limit (some 0), .read 1]
        ((ByteStream.ofBytes brokenQuad).decoded .base64).state [],
      r.upshot = .failed .badBase64 ∧ Spent 0 r.pulls ∧ r.answer = .ok [] ∧ r.PassesOn ∧
        r.Discreet := by
  obtain ⟨answer, recorded⟩ : ∃ answer, ⟨brokenQuadPulls, .failed .badBase64, answer⟩ ∈
      record .base64 (ByteStream.ofBytes brokenQuad).kind [.limit (some 0), .read 1]
        ((ByteStream.ofBytes brokenQuad).decoded .base64).state [] := by
    have budget : Decoder.base64.outerLimit 0 = 4 := by decide
    change ∃ answer, _ ∈ record .base64 Cursor.kind [.read 1]
      ⟨⟨.start brokenQuad, some (Decoder.base64.outerLimit 0), 0, false⟩, none⟩ []
    rw [budget, record_read, readAlone_brokenQuad]
    exact ⟨_, List.mem_cons_self⟩
  have spent : Spent 0 brokenQuadPulls :=
    .inr (.inl ⟨Nat.succ_ne_zero _, rfl, 4, rfl, Nat.le_refl 4⟩)
  obtain ⟨passes, discreet⟩ := record_passes_on .base64 (.ofBytes brokenQuad) _ recorded
  exact ⟨_, recorded, rfl, spent, passes.1 spent, passes, discreet.mpr fun refused =>
    nomatch refused.2⟩

end Decoded

/-- **A decoder at work on a content behind a header.**  It drops the header when it opens its
input, and then hands out what follows. -/
inductive Headed where
  | header (left : Nat)
  | body
  | got (answer : Except Fault Bytes)

namespace Headed

/-- The fault of a header that ends before its last byte. -/
def headerCut : Fault := .foreign .unexpectedEnd "failed to fill whole buffer"

/-- Take in a piece of a header of which `left` bytes are missing. -/
def absorb (left : Nat) : Except Fault Bytes → Headed
  | .ok [] => got (.error headerCut)
  | .ok bytes => header (left - bytes.length)
  | .error fault => got (.error fault)

/-- Take in the header, to its last byte or a fault. -/
def opening : Headed → Move Headed Unit
  | header 0 => .answer (.ok ()) body
  | header (left + 1) => .pull (left + 1) (absorb (left + 1))
  | got (.error fault) => .answer (.error fault) body
  | s => .answer (.ok ()) s

/-- Hand out what the next pull brings. -/
def serving (n : Nat) : Headed → Move Headed Bytes
  | got (.ok bytes) => .answer (.ok (bytes.take n)) body
  | got (.error fault) => .answer (.error fault) body
  | _ => .pull n got

/-- A pull that brings nothing leads on to an answer, and what is held was pulled. -/
def books : Books Headed where
  patience
    | header _ => 2
    | body => 1
    | got _ => 0
  worth
    | got answer => taken answer
    | _ => 0
  rate := 1

/-- Opening keeps the books: it hands nothing out, and ends with the first empty pull. -/
theorem opening_keeps (s : Headed) : books.Keeps (fun _ => 0) s (opening s) := by
  fun_cases opening s with
  | case1 => exact Nat.le_refl 0
  | case2 left =>
      intro answer
      fun_cases absorb (left + 1) answer with
      | case1 => exact ⟨Nat.zero_le _, fun _ => Nat.two_pos⟩
      | case2 bytes some_bytes =>
          refine ⟨Nat.zero_le _, fun nothing => ?_⟩
          exact absurd (List.eq_nil_of_length_eq_zero nothing) some_bytes
      | case3 fault => exact ⟨Nat.zero_le _, fun _ => Nat.two_pos⟩
  | case3 fault => exact Nat.le_refl 0
  | case4 => exact Nat.le_of_eq (Nat.zero_add _)

/-- Serving keeps the books: what is handed out was pulled before. -/
theorem serving_keeps (n : Nat) (s : Headed) : books.Keeps List.length s (serving n s) := by
  have pulls : ∀ answer, taken answer ≤ 0 + 1 * taken answer := fun answer => by omega
  match s with
  | got (.ok bytes) => exact List.length_take_le' n bytes
  | got (.error fault) => exact Nat.le_refl 0
  | header left => exact fun answer => ⟨pulls answer, fun _ => Nat.two_pos⟩
  | body => exact fun answer => ⟨pulls answer, fun _ => Nat.one_pos⟩

/-- No more is handed out than was asked for. -/
theorem serving_le (n : Nat) (s : Headed) (bytes : Bytes) (next : Headed)
    (answers : serving n s = .answer (.ok bytes) next) : bytes.length ≤ n := by
  match s with
  | got (.ok held) =>
      cases answers
      exact List.length_take_le n held
  | got (.error fault) => cases answers
  | header left => cases answers
  | body => cases answers

end Headed

/-- **The decoder for a content behind a header** of some size. -/
def Decoder.headed (size : Nat) : Decoder where
  tag := .ofString "headed"
  name := "Headed"
  ratio := .one
  offset := 0
  machine := {
    fresh := Headed.header size
    opening := Headed.opening
    serving := Headed.serving
    books := Headed.books
    opening_keeps := Headed.opening_keeps
    serving_keeps := Headed.serving_keeps
    serving_le := Headed.serving_le }

/-- What it pulls from three bytes with a budget of one, behind a header of two. -/
def Headed.cutPulls : List Decoded.Pull := [⟨some 1, 2, .ok [1]⟩, ⟨some 1, 1, .ok []⟩]

namespace Decoded

/-- The end within the header makes it fail. -/
theorem readAlone_headed :
    readAlone (.headed 2) Cursor.kind.toReader 1 ⟨⟨.start [1, 2, 3], some 1, 0, false⟩, none⟩ [] =
      (.refused Headed.headerCut, Headed.cutPulls) := by
  have asks : Headed.opening (.header 2) = .pull 2 (Headed.absorb 2) := rfl
  have asks_more : Headed.opening (.header 1) = .pull 1 (Headed.absorb 1) := rfl
  have fails : Headed.opening (.got (.error Headed.headerCut)) =
      .answer (.error Headed.headerCut) .body := rfl
  have refuses : (Decoder.headed 2).machine.open? (journal Cursor.kind.toReader)
      (⟨.start [1, 2, 3], some 1, 0, false⟩, []) =
        (.error Headed.headerCut, .body,
          (⟨⟨[1, 2, 3], [2, 3]⟩, some 1, 1, true⟩, Headed.cutPulls)) :=
    (Machine.drive_of_pull asks).trans
      ((Machine.drive_of_pull asks_more).trans (Machine.drive_of_answer fails))
  rw [readAlone_of_error rfl refuses]

/-- **A fault that the cut has caused is passed on:** of a header of two bytes the limit allows
one, and the decoder fails to open its input. -/
theorem cut_header_passed_on :
    ∃ r ∈ record (.headed 2) (ByteStream.ofBytes [1, 2, 3]).kind [.limit (some 1), .read 1]
        ((ByteStream.ofBytes [1, 2, 3]).decoded (.headed 2)).state [],
      Spent 0 r.pulls ∧ r.upshot = .refused Headed.headerCut ∧
        r.answer = .error Headed.headerCut ∧ ¬ r.Discreet := by
  obtain ⟨answer, recorded⟩ : ∃ answer, ⟨Headed.cutPulls, .refused Headed.headerCut, answer⟩ ∈
      record (.headed 2) (ByteStream.ofBytes [1, 2, 3]).kind [.limit (some 1), .read 1]
        ((ByteStream.ofBytes [1, 2, 3]).decoded (.headed 2)).state [] := by
    have budget : (Decoder.headed 2).outerLimit 1 = 1 := by decide
    change ∃ answer, _ ∈ record (.headed 2) Cursor.kind [.read 1]
      ⟨⟨.start [1, 2, 3], some ((Decoder.headed 2).outerLimit 1), 0, false⟩, none⟩ []
    rw [budget, record_read, readAlone_headed]
    exact ⟨_, List.mem_cons_self⟩
  have spent : Spent 0 Headed.cutPulls := .inr (.inl ⟨Nat.one_ne_zero, rfl, 1, rfl, Nat.le_refl 1⟩)
  obtain rfl : answer = .error Headed.headerCut := tallies_start.record recorded
  refine ⟨_, recorded, spent, rfl, rfl, fun discreet => ?_⟩
  cases (discreet Headed.headerCut rfl).1 spent

end Decoded

end Discern
