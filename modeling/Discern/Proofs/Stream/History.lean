import Discern.Proofs.Stream.Restoration

/-!
# Histories of a replay buffer

Requests to a replay buffer are recorded together with what came of them and with how many
bytes its reader has handed out by then (`Buffered.record`).  From such a history alone one
can tell which bytes were handed out since the last rewind (`Entry.handedOut`) and whether
whatever was taken from the reader was within the limit in force (`Entry.KeptWithin`).

The bytes are the beginning of the content, whether the buffer has overflowed or not, and a
rewind succeeds if and only if everything was within the limit (`Buffered.record_replays`).
-/

namespace Discern

section Counting

variable {σ : Type}

/-- A reader that counts the bytes it hands out. -/
def Reader.counting (reader : Reader σ) : Reader (σ × Nat) where
  read n s := ((reader.read n s.1).1, (reader.read n s.1).2, s.2 + taken (reader.read n s.1).1)
  supply s := reader.supply s.1
  taken_le n s := reader.taken_le n s.1
  spends n s := reader.spends n s.1

/-- Counting what a reader hands out does not change what it shows. -/
theorem Reader.Shows.counting {reader : Reader σ} {s : σ} {content : Option Bytes}
    (shown : reader.Shows s content) (count : Nat) :
    reader.counting.Shows (s, count) content := by
  have delivery : reader.counting.Delivery fun s content => reader.Shows s.1 content := by
    constructor
    · intro s content n bytes here answered
      exact here.ok answered
    · intro s content n fault here failed
      exact (Reader.delivery_shows reader).error here failed
  exact delivery.shows shown

/-- The count grows by what a request brings. -/
theorem Reader.counting_total {reader : Reader σ} {n : Nat} {s next : σ × Nat}
    {answer : Except Fault Bytes} (reads : reader.counting.read n s = (answer, next)) :
    next.2 = s.2 + taken answer := by
  cases reads
  rfl

end Counting

/-- **What is asked of a replay buffer.** -/
inductive Request where
  | read (amount : Nat)
  | rewind
  | limit (bound : Option Nat)

/-- **What came of a request.**  After a read, `total` bytes have been taken from the reader
since it was opened. -/
inductive Entry where
  | read (answer : Except Fault Bytes) (total : Nat)
  | rewind (answer : Except Fault Unit)
  | limit (bound : Option Nat)

namespace Entry

/-- The bytes that were handed out since the last rewind that succeeded; `earlier` were before
the first entry. -/
def handedOut (earlier : Bytes) : List Entry → Bytes
  | [] => earlier
  | .read (.ok bytes) _ :: rest => handedOut (earlier ++ bytes) rest
  | .read (.error _) _ :: rest => handedOut earlier rest
  | .rewind (.ok ()) :: rest => handedOut [] rest
  | .rewind (.error _) :: rest => handedOut earlier rest
  | .limit _ :: rest => handedOut earlier rest

/-- **Whenever bytes were taken from the reader,** all that were taken up to then were within
the limit in force. -/
def KeptWithin (limit : Option Nat) (total : Nat) : List Entry → Prop
  | [] => True
  | .read _ later :: rest =>
    (total < later → ∀ bound, limit = some bound → later ≤ bound) ∧ KeptWithin limit later rest
  | .rewind _ :: rest => KeptWithin limit total rest
  | .limit bound :: rest => KeptWithin bound total rest

end Entry

namespace Buffered

section Keep

variable {σ : Type} {b : Buffered σ} {bytes : Bytes}

/-- Bytes fit exactly if they keep the buffer within its limit, where it has one. -/
theorem fits_iff (b : Buffered σ) (n : Nat) :
    b.fits n = true ↔ ∀ bound, b.limit = some bound → b.kept.size + n ≤ bound := by
  rw [fits]
  cases b.limit with
  | none => simp
  | some bound => simp

theorem limit_keep (b : Buffered σ) (bytes : Bytes) : (b.keep bytes).limit = b.limit := by
  obtain ⟨-, same⟩ | ⟨-, -, same⟩ | ⟨-, -, same⟩ := keep_cases b bytes <;> rw [same]

/-- Everything is dropped exactly where bytes come in that do not fit. -/
theorem overflowed_keep_iff :
    (b.keep bytes).overflowed = false ↔
      b.overflowed = false ∧ (bytes ≠ [] → b.fits bytes.length = true) := by
  rw [keep]
  by_cases idle : (bytes.isEmpty || b.overflowed) = true
  · rw [if_pos idle]
    rw [Bool.or_eq_true, List.isEmpty_iff] at idle
    refine ⟨fun replayable => ⟨replayable, fun some_bytes => ?_⟩, And.left⟩
    cases (idle.resolve_left some_bytes).symm.trans replayable
  · rw [if_neg idle]
    rw [Bool.or_eq_true, List.isEmpty_iff, not_or, Bool.not_eq_true] at idle
    by_cases fits : b.fits bytes.length = true
    · rw [if_pos fits]
      exact iff_of_true idle.2 ⟨idle.2, fun _ => fits⟩
    · rw [if_neg fits]
      exact iff_of_false (fun same => by cases same) fun within => fits (within.2 idle.1)

/-- As long as nothing is dropped, everything is kept. -/
theorem size_keep (replayable : (b.keep bytes).overflowed = false) :
    (b.keep bytes).kept.size = b.kept.size + bytes.length := by
  obtain ⟨idle, same⟩ | ⟨-, -, same⟩ | ⟨-, -, same⟩ := keep_cases b bytes
  · rw [same] at replayable ⊢
    rw [idle.resolve_right (Bool.eq_false_iff.mp replayable), List.length_nil, Nat.add_zero]
  · rw [same]
    exact size_append_bytes b.kept bytes
  · rw [same] at replayable
    cases replayable

end Keep

variable {σ : Type} (reader : Reader σ)

/-- Serve one request. -/
def serveRequest : Request → Buffered (σ × Nat) → Entry × Buffered (σ × Nat)
  | .read amount, b =>
    let (answer, b) := (kind reader.counting).read amount b
    (.read answer b.inner.2, b)
  | .rewind, b =>
    let (answer, b) := (kind reader.counting).rewind b
    (.rewind answer, b)
  | .limit bound, b => (.limit bound, (kind reader.counting).limit bound b)

/-- **Serve requests** and record what came of them. -/
def record : List Request → Buffered (σ × Nat) → List Entry × Buffered (σ × Nat)
  | [], b => ([], b)
  | request :: rest, b =>
    let (entry, b) := serveRequest reader request b
    let (entries, b) := record rest b
    (entry :: entries, b)

/-- **A buffer after some history:** `since` was handed out after the last rewind, the rest of
the content is left, and as long as nothing was dropped all that was taken is kept. -/
structure Accounted (content since : Bytes) (b : Buffered (σ × Nat)) : Prop where
  left : ∃ rest, b.Left reader.counting content rest ∧ content = since ++ rest
  counted : b.overflowed = false → b.kept.size = b.inner.2

variable {reader} {content since : Bytes} {b : Buffered (σ × Nat)}

/-- A buffer that has kept nothing is accounted for by an empty history. -/
theorem accounted_start {inner : σ} (shown : reader.Shows inner (some content))
    (limit : Option Nat) : (start (inner, 0) limit).Accounted reader content [] :=
  ⟨⟨content, left_start (shown.counting 0) limit, rfl⟩, fun _ => rfl⟩

/-- **A read hands out what follows.**  Nothing comes only where everything was handed out. -/
theorem Accounted.read_ok (accounted : b.Accounted reader content since) (n : Nat) :
    ∃ bytes, (read reader.counting n b).1 = .ok bytes ∧
      (bytes = [] → n ≠ 0 → since = content) ∧
      ∃ rest, (read reader.counting n b).2.Left reader.counting content rest ∧
        content = since ++ bytes ++ rest := by
  obtain ⟨rest, left, split⟩ := accounted.left
  obtain ⟨bytes, later, answered, same, next⟩ := left.read n
  refine ⟨bytes, answered, fun empty more => ?_, later, next, ?_⟩
  · obtain ⟨got, _, again, -, -, ends⟩ := left.shows.read n
    obtain rfl : got = bytes := Except.ok.inj (again.symm.trans answered)
    rw [split, ends empty more, List.append_nil]
  · rw [split, same, List.append_assoc]

/-- **A read keeps what it takes,** unless it takes bytes past the limit. -/
theorem Accounted.read_keeps (accounted : b.Accounted reader content since) (n : Nat) :
    (read reader.counting n b).2.limit = b.limit ∧
    ((read reader.counting n b).2.overflowed = false →
      (read reader.counting n b).2.kept.size = (read reader.counting n b).2.inner.2) ∧
    ((read reader.counting n b).2.overflowed = false ↔ b.overflowed = false ∧
      (b.inner.2 < (read reader.counting n b).2.inner.2 → ∀ bound, b.limit = some bound →
        (read reader.counting n b).2.inner.2 ≤ bound)) := by
  have counted := accounted.counted
  have idle : ∀ {p : Prop}, b.overflowed = false ↔
      b.overflowed = false ∧ (b.inner.2 < b.inner.2 → p) := by
    intro p
    exact ⟨fun kept => ⟨kept, fun more => absurd more (Nat.lt_irrefl _)⟩, And.left⟩
  obtain ⟨-, served⟩ | ⟨-, got, inner, reads, served⟩ | ⟨-, fault, inner, reads, served⟩ :=
    read_cases reader.counting n b
  · rw [served]
    exact ⟨rfl, counted, idle⟩
  · have total : inner.2 = b.inner.2 + got.length := Reader.counting_total reads
    rw [served]
    refine ⟨limit_keep _ got, fun replayable => ?_, ?_⟩
    · rw [size_keep replayable, inner_keep, total]
      exact congrArg (· + got.length) (counted (overflowed_keep_iff.mp replayable).1)
    · rw [overflowed_keep_iff, inner_keep, fits_iff, total]
      apply and_congr_right
      intro replayable
      rw [← counted replayable, ← List.length_pos_iff, Nat.lt_add_right_iff_pos]
  · have total : inner.2 = b.inner.2 := Reader.counting_total reads
    rw [served]
    dsimp only
    rw [total]
    exact ⟨rfl, counted, idle⟩

/-- A rewind leads back to the first byte, or it changes nothing. -/
theorem Accounted.rewind (accounted : b.Accounted reader content since) :
    (b.rewind = (.ok (), { b with position := 0 }) ∧
      { b with position := 0 }.Accounted reader content []) ∨
    b.rewind = (.error .limitExceeded, b) := by
  by_cases overflowed : b.overflowed = true
  · exact .inr (rewind_of_overflowed overflowed)
  · have back := rewind_of_kept (Bool.eq_false_iff.mpr overflowed)
    obtain ⟨rest, left, -⟩ := accounted.left
    have again := (restores reader.counting content).rewind left (congrArg Prod.fst back)
    change b.rewind.2.Left reader.counting content content at again
    rw [back] at again
    exact .inl ⟨back, ⟨content, again, rfl⟩, accounted.counted⟩

/-- **What a history tells** about the buffer it leads to. -/
theorem Accounted.record (accounted : b.Accounted reader content since)
    (requests : List Request) :
    (record reader requests b).2.Accounted reader content
        (Entry.handedOut since (record reader requests b).1) ∧
      ((record reader requests b).2.overflowed = false ↔ b.overflowed = false ∧
        Entry.KeptWithin b.limit b.inner.2 (record reader requests b).1) := by
  induction requests generalizing b since with
  | nil => exact ⟨accounted, (and_iff_left trivial).symm⟩
  | cons request rest ih =>
      cases request with
      | read n =>
          obtain ⟨bytes, answered, -, left⟩ := accounted.read_ok n
          obtain ⟨limited, counted, kept⟩ := accounted.read_keeps n
          have next : Accounted reader content (since ++ bytes) (read reader.counting n b).2 :=
            ⟨left, counted⟩
          obtain ⟨later, within⟩ := ih next
          change Accounted reader content (Entry.handedOut since
            (.read (read reader.counting n b).1 _ :: _)) _ ∧ (_ ↔ _ ∧ (_ ∧ _))
          rw [answered]
          rw [kept, limited] at within
          exact ⟨later, within.trans and_assoc⟩
      | rewind =>
          rcases accounted.rewind with ⟨back, again⟩ | failed
          · have served : (kind reader.counting).rewind b = _ := back
            obtain ⟨later, within⟩ := ih again
            simp only [Buffered.record, serveRequest, served]
            exact ⟨later, within⟩
          · have served : (kind reader.counting).rewind b = _ := failed
            obtain ⟨later, within⟩ := ih accounted
            simp only [Buffered.record, serveRequest, served]
            exact ⟨later, within⟩
      | limit bound =>
          obtain ⟨⟨left, split⟩, counted⟩ := accounted
          exact ih ⟨⟨left, ⟨split.1.inside, split.1.ahead⟩, split.2⟩, counted⟩

/-- **A replay buffer is faithful.**  Whatever is asked of it, and in whatever pieces its reader
hands out a content: what was handed out since the last rewind is the beginning of the content;
the next read goes on from there and brings nothing only where the content ends; the next
rewind succeeds if and only if everything that was taken from the reader was, when it was taken,
within the limit in force; and a rewind that fails changes nothing. -/
theorem record_replays {inner : σ} (shown : reader.Shows inner (some content))
    {limit : Option Nat} {requests : List Request} {history : List Entry}
    (recorded : Buffered.record reader requests (start (inner, 0) limit) = (history, b)) :
    Entry.handedOut [] history <+: content ∧
    (∀ n, ∃ bytes, ((kind reader.counting).read n b).1 = .ok bytes ∧
      Entry.handedOut [] history ++ bytes <+: content ∧
      (bytes = [] → n ≠ 0 → Entry.handedOut [] history = content)) ∧
    (((kind reader.counting).rewind b).1 = .ok () ↔ Entry.KeptWithin limit 0 history) ∧
    (((kind reader.counting).rewind b).1 ≠ .ok () → ((kind reader.counting).rewind b).2 = b) := by
  obtain ⟨accounted, within⟩ := (accounted_start shown limit).record requests
  rw [recorded] at accounted within
  have replayable : b.overflowed = false ↔ Entry.KeptWithin limit 0 history :=
    within.trans (and_iff_right rfl)
  obtain ⟨rest, -, split⟩ := accounted.left
  refine ⟨⟨rest, split.symm⟩, fun n => ?_, ?_⟩
  · obtain ⟨bytes, answered, ends, later, -, follows⟩ := accounted.read_ok n
    exact ⟨bytes, answered, ⟨later, follows.symm⟩, ends⟩
  · change (b.rewind.1 = _ ↔ _) ∧ (b.rewind.1 ≠ _ → b.rewind.2 = b)
    rw [← replayable]
    by_cases overflowed : b.overflowed = true
    · rw [rewind_of_overflowed overflowed, overflowed]
      exact ⟨iff_of_false nofun nofun, fun _ => rfl⟩
    · rw [Bool.not_eq_true] at overflowed
      rw [rewind_of_kept overflowed]
      exact ⟨iff_of_true rfl overflowed, fun failed => absurd rfl failed⟩

/-- A history of four bytes, of which three may be kept when the last two are read. -/
def fourBytes : List Entry :=
  [.read (.ok [1, 2]) 2, .rewind (.ok ()), .limit (some 3), .read (.ok [1]) 2, .read (.ok [2]) 2,
    .read (.ok [3, 4]) 4, .rewind (.error .limitExceeded)]

/-- The buffer after that history. -/
def afterFourBytes : Buffered (Cursor × Nat) :=
  { inner := (⟨[1, 2, 3, 4], []⟩, 4), kept := #[], position := 0, limit := some 3
    overflowed := true }

/-- Four bytes read, rewound and read on beyond a limit of three, request by request. -/
theorem record_replays_fourBytes :
    Cursor.kind.toReader.Shows (.start [1, 2, 3, 4]) (some [1, 2, 3, 4]) ∧
    Buffered.record Cursor.kind.toReader
        [.read 2, .rewind, .limit (some 3), .read 1, .read 2, .read 2, .rewind]
        (start (.start [1, 2, 3, 4], 0) none) = (fourBytes, afterFourBytes) ∧
      Entry.handedOut [] fourBytes <+: [1, 2, 3, 4] ∧
      (∀ n, ∃ bytes, ((kind Cursor.kind.toReader.counting).read n afterFourBytes).1 = .ok bytes ∧
        Entry.handedOut [] fourBytes ++ bytes <+: [1, 2, 3, 4] ∧
        (bytes = [] → n ≠ 0 → Entry.handedOut [] fourBytes = [1, 2, 3, 4])) ∧
      (((kind Cursor.kind.toReader.counting).rewind afterFourBytes).1 = .ok () ↔
        Entry.KeptWithin none 0 fourBytes) ∧
      (((kind Cursor.kind.toReader.counting).rewind afterFourBytes).1 ≠ .ok () →
        ((kind Cursor.kind.toReader.counting).rewind afterFourBytes).2 = afterFourBytes) := by
  have shown : Cursor.kind.toReader.Shows (.start [1, 2, 3, 4]) (some [1, 2, 3, 4]) :=
    Cursor.shows (.start [1, 2, 3, 4])
  have recorded : Buffered.record Cursor.kind.toReader
      [.read 2, .rewind, .limit (some 3), .read 1, .read 2, .read 2, .rewind]
      (start (.start [1, 2, 3, 4], 0) none) = (fourBytes, afterFourBytes) := by rfl
  exact ⟨shown, recorded, record_replays shown recorded⟩

end Buffered

end Discern
