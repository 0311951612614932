import Discern.Decoder.Basic
import Discern.Deflate.Inflation
import Discern.Gzip.Header

/-!
# The gzip decoder

Gzip content is a row of members, each with a header, compressed data and a trailer;
whatever follows a member is the next one.  The decoder pulls whenever it has used up
what it pulled before, even while unpacked bytes wait to be handed out.

It unpacks ahead of the request, up to the next multiple of the window's size, and
what it finds wrong in doing so it reports at once.  Data that ends too early is
handed out as far as it goes.
-/

namespace Discern.Gzip

open Deflate

/-- The bytes that a pull asks for. -/
def block : Nat := 32768

/-- The size of the window that is unpacked at a time. -/
def window : Nat := 32768

/-- **Compressed data at work.**  Of what was unpacked, the bytes before `delivered`
were handed out, and those before `written` may be. -/
structure Body where
  inflation : Inflation
  written : Nat
  delivered : Nat
  sum : Checksum
deriving Inhabited

/-- **Where the decoder stands** in a row of members. -/
inductive Stage where
  | header
  | body (body : Body)
  | trailer (sum : Checksum) (length : Nat)
  | between
  | finished
deriving Inhabited

/-- What the last pull has brought, where it needs attention. -/
inductive News where
  | none
  | dry
  | fault (fault : Fault)
deriving DecidableEq, Inhabited

/-- **The gzip decoder at work.**  It is `starved` when it can do nothing with what
is left in the queue. -/
structure Work where
  queue : BitQueue
  stage : Stage
  starved : Bool
  news : News
deriving Inhabited

namespace Body

def fresh : Body :=
  { inflation := .fresh, written := 0, delivered := 0, sum := .start }

/-- The unpacked bytes that were not handed out. -/
def pending (b : Body) : Nat := b.inflation.history.size - b.delivered

/-- The next `n` bytes to hand out, or all that may be. -/
def share (n : Nat) (b : Body) : Bytes :=
  (b.inflation.history.extract b.delivered (min (b.delivered + n) b.written)).toList

/-- Hand out bytes. -/
def deliver (bytes : Bytes) (b : Body) : Body :=
  { b with delivered := b.delivered + bytes.length, sum := b.sum.feed bytes }

/-- The end of the window in which the next byte is written. -/
def edge (b : Body) : Nat := (b.written / window + 1) * window

/-- Unpack one window. -/
def unpack (b : Body) (q : BitQueue) : Body × BitQueue × Halt :=
  match b.inflation.run b.edge q with
  | (inflation, q, halt) =>
    ({ b with inflation, written := min inflation.history.size b.edge }, q, halt)

/-- Unpack windows until `goal` bytes may be handed out or the queue is used up. -/
def fill (goal : Nat) (b : Body) (q : BitQueue) : Body × BitQueue × Halt :=
  match b.unpack q with
  | (b', q', halt) =>
    if halt = .full ∧ b.written < b'.written ∧ b'.written < goal ∧ q'.bytes ≠ [] then
      fill goal b' q'
    else (b', q', halt)
termination_by goal - b.written

theorem unpack_writes (b : Body) (q : BitQueue) :
    (b.unpack q).1.pending + 258 * (b.unpack q).2.1.size ≤ b.pending + 258 * q.size ∧
      (b.unpack q).2.1.size ≤ q.size := by
  have hw := Inflation.run_writes b.edge b.inflation q
  have hs := Inflation.run_size_le b.edge b.inflation q
  unfold unpack
  generalize b.inflation.run b.edge q = r at hw hs ⊢
  obtain ⟨inflation, q', halt⟩ := r
  simp only [pending] at hw hs ⊢
  omega

theorem fill_writes (goal : Nat) (b : Body) (q : BitQueue) :
    (fill goal b q).1.pending + 258 * (fill goal b q).2.1.size ≤ b.pending + 258 * q.size ∧
      (fill goal b q).2.1.size ≤ q.size := by
  induction hm : goal - b.written using Nat.strongRecOn generalizing b q with
  | ind m ih =>
    have hu := unpack_writes b q
    unfold fill
    generalize b.unpack q = r at hu ⊢
    obtain ⟨b', q', halt⟩ := r
    simp only at hu ⊢
    split
    · have hi := ih (goal - b'.written) (by omega) b' q' rfl
      exact ⟨Nat.le_trans hi.1 hu.1, Nat.le_trans hi.2 hu.2⟩
    · exact hu

theorem share_spends (n : Nat) (b : Body) :
    (b.share n).length + (b.deliver (b.share n)).pending ≤ b.pending := by
  have : (b.share n).length ≤ b.pending := by
    simp only [share, pending, Array.length_toList, Array.size_extract]
    omega
  simp only [deliver, pending] at this ⊢
  omega

theorem share_le (n : Nat) (b : Body) : (b.share n).length ≤ n := by
  simp only [share, Array.length_toList, Array.size_extract]
  omega

end Body

namespace Work

def fresh : Work :=
  { queue := ⟨[], []⟩, stage := .header, starved := false, news := .none }

/-- Take in what a pull has brought. -/
def absorb (w : Work) : Except Fault Bytes → Work
  | .ok [] => { w with news := .dry }
  | .ok bytes => { w with queue := w.queue.append bytes, starved := false }
  | .error fault => { w with news := .fault fault }

/-- Pull, or report that the data ends too early. -/
def want (w : Work) : Move Work Bytes :=
  if w.news = .none then .pull block w.absorb
  else .answer (.error .gzipCutShort) { w with news := .none }

/-- Report corrupt data. -/
def refuse (w : Work) : Move Work Bytes :=
  .answer (.error .badGzip) { w with news := .none }

/-- Hand out bytes of compressed data. -/
def deliver (n : Nat) (w : Work) (b : Body) : Move Work Bytes :=
  let bytes := b.share n
  .answer (.ok bytes) { w with stage := .body (b.deliver bytes), news := .none }

/-- Read a header. -/
def header (w : Work) : Move Work Bytes :=
  match Header.skip w.queue with
  | .ok ((), queue) => .think { w with queue, stage := .body .fresh }
  | .error .short => w.want
  | .error .corrupt => w.refuse

/-- Hand out bytes of compressed data, and unpack more where none are left. -/
def body (n : Nat) (w : Work) (b : Body) : Move Work Bytes :=
  if (w.starved ∨ w.queue.bytes = []) ∧ w.news = .none then .pull block w.absorb
  else if b.delivered < b.written then w.deliver n b
  else
    match b.fill (b.delivered + n) w.queue with
    | (b', queue, halt) =>
      if halt = .corrupt then w.refuse
      else if b'.delivered < b'.written then
        { w with queue, starved := halt = Halt.short }.deliver n b'
      else if halt = .done then
        .think { w with queue, stage := .trailer b'.sum b'.delivered }
      else { w with queue, stage := .body b', starved := true }.want

/-- Read a trailer and compare it with what was handed out. -/
def trailer (w : Work) (sum : Checksum) (length : Nat) : Move Work Bytes :=
  match Gzip.trailer w.queue with
  | .ok ((wantedSum, wantedLength), queue) =>
    if wantedSum = sum.value.toNat ∧ wantedLength = length % UInt32.size then
      .think { w with queue, stage := .between }
    else { w with queue, stage := .finished }.refuse
  | .error .short => w.want
  | .error .corrupt => w.refuse

/-- Go on with the next member, if there is one. -/
def between (w : Work) : Move Work Bytes :=
  if w.queue.bytes ≠ [] then .think { w with stage := .header }
  else if w.news = .none then .pull block w.absorb
  else .answer (.ok []) { w with stage := .finished, news := .none }

/-- Serve a request for `n` bytes. -/
def serving (n : Nat) (w : Work) : Move Work Bytes :=
  if n = 0 then .answer (.ok []) w
  else
    match w.news with
    | .fault fault => .answer (.error fault) { w with news := .none }
    | _ =>
      match w.stage with
      | .header => w.header
      | .body b => w.body n b
      | .trailer sum length => w.trailer sum length
      | .between => w.between
      | .finished => .answer (.ok []) { w with news := .none }

/-- How far a stage is from the next header. -/
def rank : Stage → Nat
  | .header => 0
  | .between => 1
  | .trailer .. => 2
  | .body _ => 3
  | .finished => 0

/-- What may still be handed out of what was unpacked. -/
def pending : Stage → Nat
  | .body b => b.pending
  | _ => 0

/-- A header makes up for the stages after it, and a bit is worth what the longest
copy writes. -/
def books : Books Work where
  patience w := 4 * w.queue.size + 2 * rank w.stage + if w.news = .none then 1 else 0
  worth w := pending w.stage + 258 * w.queue.size
  rate := 2064

/-- A move that keeps the books of the decoder. -/
abbrev Balanced (w : Work) (move : Move Work Bytes) : Prop := books.Keeps List.length w move

/-- A pull keeps the books, also from a state in which something was unpacked. -/
theorem absorb_keeps {w w' : Work} (hnews : w.news = .none)
    (hq : w'.queue.size ≤ w.queue.size) (hr : rank w'.stage ≤ rank w.stage)
    (hw : books.worth w' ≤ books.worth w) :
    Balanced w (.pull block w'.absorb) := by
  intro got
  unfold absorb
  split
  · simp only [books, hnews, taken_ok, List.length_nil] at hw ⊢
    simp
    omega
  · rename_i bytes hne
    refine ⟨?_, fun h0 => absurd (List.length_eq_zero_iff.1 h0) hne⟩
    simp only [books, BitQueue.size_append, taken_ok] at hw ⊢
    omega
  · simp only [books, hnews, taken_error] at hw ⊢
    simp
    omega

theorem want_keeps {w w' : Work} (hn : w'.news = w.news)
    (hq : w'.queue.size ≤ w.queue.size) (hr : rank w'.stage ≤ rank w.stage)
    (hw : books.worth w' ≤ books.worth w) : Balanced w w'.want := by
  unfold want
  split
  · rename_i h
    exact absorb_keeps (by rw [← hn, h]) hq hr hw
  · exact hw

theorem deliver_keeps (n : Nat) {w w' : Work} {b : Body}
    (hw : b.pending + 258 * w'.queue.size ≤ books.worth w) :
    Balanced w (w'.deliver n b) := by
  have := b.share_spends n
  simp only [deliver, Books.Keeps, books, pending] at hw ⊢
  omega

theorem header_keeps (w : Work) : Balanced w w.header := by
  unfold header
  split
  · rename_i queue h
    have := Header.spends_skip w.queue () queue h
    refine ⟨?_, ?_⟩
    · simp only [books, rank]
      split <;> omega
    · simp only [books, pending, Body.pending, Body.fresh, Inflation.fresh]
      simp
      omega
  · exact want_keeps rfl (Nat.le_refl _) (Nat.le_refl _) (Nat.le_refl _)
  · exact Nat.le_refl _

theorem body_keeps (n : Nat) (w : Work) (b : Body) (hs : w.stage = .body b) :
    Balanced w (w.body n b) := by
  have hworth : books.worth w = b.pending + 258 * w.queue.size := by simp [books, hs, pending]
  unfold body
  split
  · rename_i h
    exact absorb_keeps h.2 (Nat.le_refl _) (Nat.le_refl _) (Nat.le_refl _)
  · split
    · exact deliver_keeps n (by omega)
    · have hf := b.fill_writes (b.delivered + n) w.queue
      generalize b.fill (b.delivered + n) w.queue = r at hf ⊢
      obtain ⟨b', queue, halt⟩ := r
      simp only at hf ⊢
      split
      · exact Nat.le_refl _
      · split
        · exact deliver_keeps n (by simp only; omega)
        · split
          · refine ⟨?_, ?_⟩
            · simp only [books, rank, hs]
              omega
            · simp only [hworth]
              simp only [books, pending]
              omega
          · exact want_keeps rfl hf.2 (by simp [rank, hs]) (by
              simp only [hworth]
              simp only [books, pending]
              omega)

theorem trailer_keeps (w : Work) (sum : Checksum) (length : Nat)
    (hs : w.stage = .trailer sum length) :
    Balanced w (w.trailer sum length) := by
  unfold trailer
  split
  · rename_i wantedSum wantedLength queue h
    have := spends_trailer w.queue _ queue h
    split
    · refine ⟨?_, ?_⟩
      · simp only [books, rank, hs]
        omega
      · simp only [books, pending, hs]
        omega
    · simp only [refuse, Books.Keeps, books, pending, hs]
      omega
  · exact want_keeps rfl (Nat.le_refl _) (Nat.le_refl _) (Nat.le_refl _)
  · exact Nat.le_refl _

theorem between_keeps (w : Work) (hs : w.stage = .between) :
    Balanced w w.between := by
  unfold between
  split
  · refine ⟨?_, ?_⟩
    · simp only [books, rank, hs]
      omega
    · simp [books, pending, hs]
  · split
    · rename_i h
      exact absorb_keeps h (Nat.le_refl _) (Nat.le_refl _) (Nat.le_refl _)
    · simp [Books.Keeps, books, pending, hs]

theorem serving_keeps (n : Nat) (w : Work) : Balanced w (serving n w) := by
  unfold serving
  split
  · simp [Books.Keeps]
  · split
    · exact Nat.le_refl _
    · split
      · exact header_keeps w
      · exact body_keeps n w _ ‹_›
      · exact trailer_keeps w _ _ ‹_›
      · exact between_keeps w ‹_›
      · simp [Books.Keeps, books]

/-- Whether a move answers no more than it was asked for. -/
def Answers (n : Nat) : Move Work Bytes → Prop
  | .answer (.ok bytes) _ => bytes.length ≤ n
  | _ => True

theorem want_answers (n : Nat) (w : Work) : Answers n w.want := by
  unfold want
  split <;> trivial

theorem serving_answers (n : Nat) (w : Work) : Answers n (serving n w) := by
  unfold serving
  split
  · exact Nat.zero_le n
  · split
    · trivial
    · split
      · unfold header
        split
        · trivial
        · exact want_answers n w
        · trivial
      · unfold body
        split
        · trivial
        · split
          · exact Body.share_le n _
          · simp only
            split
            · trivial
            · split
              · exact Body.share_le n _
              · split
                · trivial
                · exact want_answers n _
      · unfold trailer
        split
        · split <;> trivial
        · exact want_answers n w
        · trivial
      · unfold between
        split
        · trivial
        · split
          · trivial
          · exact Nat.zero_le n
      · exact Nat.zero_le n

end Work

/-- **The machine of the gzip decoder.** -/
def machine : Machine where
  fresh := Work.fresh
  opening w := .answer (.ok ()) w
  serving := Work.serving
  books := Work.books
  opening_keeps w := by simp [Books.Keeps]
  serving_keeps := Work.serving_keeps
  serving_le n w bytes next h := by
    have := Work.serving_answers n w
    rw [h] at this
    exact this

end Discern.Gzip

namespace Discern.Decoder

/-- **The decoder for gzip content.**  Content that does not shrink grows by little
more than its ends. -/
def gzip : Decoder where
  tag := .gzip
  name := "GzipDecoder"
  ratio := .one
  offset := 512
  machine := Gzip.machine

end Discern.Decoder
