import Discern.Base64
import Discern.Decoder.Basic

/-!
# The base64 decoder

The decoder ignores ASCII blanks and decodes quads as they arrive.  It pulls only
when it holds no complete quad, asks for as many symbols as it has room for, and
decodes as many quads at once as the request can take; for a request of less than
three bytes it decodes one quad and keeps what is left over.  At the end of the
input it decodes what it holds, complete or not.  After padding nothing may follow.
-/

namespace Discern.Base64

/-- What the last pull has brought, where it needs attention. -/
inductive News where
  | none
  | dry
  | fault (fault : Fault)
deriving DecidableEq, Inhabited

/-- **The base64 decoder at work.**  It holds symbols that are not decoded and bytes
that are not handed out. -/
structure Work where
  held : Bytes
  left : Bytes
  padded : Bool
  news : News
deriving DecidableEq, Inhabited

namespace Work

/-- The symbols there is room for. -/
def capacity : Nat := 1024

def fresh : Work := { held := [], left := [], padded := false, news := .none }

/-- Take in what a pull has brought. -/
def absorb (w : Work) : Except Fault Bytes → Work
  | .ok [] => { w with news := .dry }
  | .ok bytes => { w with held := w.held ++ bytes.filter (!isBlankByte ·) }
  | .error fault => { w with news := .fault fault }

/-- How many held symbols are decoded for a request of `n` bytes. -/
def portion (w : Work) (n : Nat) : Nat :=
  let whole := if w.news = .dry then w.held.length else w.held.length - w.held.length % 4
  min (4 * max 1 (n / 3)) whole

/-- Decode held symbols for a request of `n` bytes. -/
def decode (n : Nat) (w : Work) : Move Work Bytes :=
  let symbols := w.held.take (w.portion n)
  match decode? symbols with
  | none => .answer (.error .badBase64) { w with news := .none }
  | some bytes =>
    if w.padded && !bytes.isEmpty then .answer (.error .badBase64) { w with news := .none }
    else
      .answer (.ok (bytes.take n)) {
        held := w.held.drop (w.portion n), left := bytes.drop n
        padded := w.padded || isPadded symbols, news := .none }

/-- Serve a request for `n` bytes. -/
def serving (n : Nat) (w : Work) : Move Work Bytes :=
  if n = 0 then .answer (.ok []) w
  else if !w.left.isEmpty then .answer (.ok (w.left.take n)) { w with left := w.left.drop n }
  else
    match w.news with
    | .fault fault => .answer (.error fault) { w with news := .none }
    | .dry =>
      if w.held.isEmpty then .answer (.ok []) { w with news := .none } else decode n w
    | .none => if w.held.length < 4 then .pull (capacity - w.held.length) w.absorb else decode n w

/-- A decoder that has just run dry pulls no more for this request, and a symbol is
worth no more than a byte. -/
def books : Books Work where
  patience w := if w.news = .none then 1 else 0
  worth w := w.left.length + w.held.length
  rate := 1

theorem decode_keeps (n : Nat) (w : Work) : books.Keeps List.length w (decode n w) := by
  unfold decode
  simp only
  split
  · simp [Books.Keeps, books]
  · rename_i bytes h
    have hb := length_of_decode h
    split
    · simp [Books.Keeps, books]
    · simp only [Books.Keeps, books, List.length_take, List.length_drop] at hb ⊢
      omega

theorem absorb_worth (w : Work) (got : Except Fault Bytes) :
    books.worth (w.absorb got) ≤ books.worth w + taken got := by
  unfold absorb
  split
  · simp [books]
  · have := List.length_filter_le (fun b => !isBlankByte b)
    simp only [books, List.length_append, taken_ok]
    rename_i bytes _
    have := this bytes
    omega
  · simp [books]

theorem serving_keeps (n : Nat) (w : Work) : books.Keeps List.length w (serving n w) := by
  unfold serving
  split
  · simp [Books.Keeps, books]
  · split
    · simp only [Books.Keeps, books, List.length_take, List.length_drop]
      omega
    · split
      · simp [Books.Keeps, books]
      · split
        · simp [Books.Keeps, books]
        · exact decode_keeps n w
      · rename_i hn
        split
        · intro got
          refine ⟨?_, ?_⟩
          · have := absorb_worth w got
            simpa [books] using this
          · intro h0
            rcases got with fault | bytes
            · simp [absorb, books, hn]
            · cases bytes with
              | nil => simp [absorb, books, hn]
              | cons b bs => simp at h0
        · exact decode_keeps n w

theorem decode_le (n : Nat) (w : Work) {bytes : Bytes} {next : Work}
    (h : decode n w = .answer (.ok bytes) next) : bytes.length ≤ n := by
  unfold decode at h
  simp only at h
  split at h
  · cases h
  · split at h
    · cases h
    · cases h
      exact List.length_take_le n _

theorem serving_le (n : Nat) (w : Work) (bytes : Bytes) (next : Work)
    (h : serving n w = .answer (.ok bytes) next) : bytes.length ≤ n := by
  unfold serving at h
  split at h
  · cases h
    simp
  · split at h
    · cases h
      exact List.length_take_le n _
    · split at h
      · cases h
      · split at h
        · cases h
          simp
        · exact decode_le n w h
      · split at h
        · cases h
        · exact decode_le n w h

end Work

/-- **The machine of the base64 decoder.** -/
def machine : Machine where
  fresh := Work.fresh
  opening w := .answer (.ok ()) w
  serving := Work.serving
  books := Work.books
  opening_keeps w := by simp [Books.Keeps]
  serving_keeps := Work.serving_keeps
  serving_le := Work.serving_le

end Discern.Base64

namespace Discern.Decoder

/-- **The decoder for base64 text.**  Up to two line ends in 64 symbols are covered
by its ratio, which is 1.4 in single precision. -/
def base64 : Decoder where
  tag := .base64
  name := "Base64Decoder"
  ratio := ⟨11744051, 23⟩
  offset := 4
  machine := Base64.machine

end Discern.Decoder
