import Discern.Stream.Reader

/-!
# Streams that can be read again

Every look at a stream is followed by a rewind, so a stream is a reader that can
go back to its first byte.  A limit tells it how many bytes have to stay
replayable; a stream that holds its whole content may ignore limits.

A `ByteStream` packs a kind of stream with a state of it, so that layers of
different kinds can be put on top of each other.
-/

namespace Discern

/-- **How one kind of stream is read, rewound and limited.** -/
structure StreamKind (σ : Type) extends Reader σ where
  rewind : σ → Except Fault Unit × σ
  limit : Option Nat → σ → σ

/-- **A stream of some kind.** -/
structure ByteStream where
  {State : Type}
  kind : StreamKind State
  state : State

namespace ByteStream

/-- One request for at most `n` bytes. -/
def read (n : Nat) (s : ByteStream) : Except Fault Bytes × ByteStream :=
  let (result, state) := s.kind.read n s.state
  (result, { s with state })

/-- The bytes up to a limit, or to the end without one. -/
def readUpTo (limit : Option Nat) (s : ByteStream) : Except Fault Bytes × ByteStream :=
  let (result, state) := s.kind.readUpTo limit s.state
  (result, { s with state })

/-- Go back to the first byte. -/
def rewind (s : ByteStream) : Except Fault Unit × ByteStream :=
  let (result, state) := s.kind.rewind s.state
  (result, { s with state })

/-- Say how many bytes have to stay replayable. -/
def setLimit (limit : Option Nat) (s : ByteStream) : ByteStream :=
  { s with state := s.kind.limit limit s.state }

end ByteStream

/-- **A content with a position in it.** -/
structure Cursor where
  content : Bytes
  rest : Bytes
deriving DecidableEq, Inhabited

namespace Cursor

/-- At the first byte of a content. -/
def start (content : Bytes) : Cursor := ⟨content, content⟩

def kind : StreamKind Cursor where
  read n s := (.ok (s.rest.take n), { s with rest := s.rest.drop n })
  supply s := s.rest.length
  taken_le n s := List.length_take_le n s.rest
  spends n s := by
    simp only [taken_ok, List.length_take, List.length_drop]
    omega
  rewind s := (.ok (), { s with rest := s.content })
  limit _ s := s

end Cursor

/-- **The stream of a content that is held in memory.** -/
def ByteStream.ofBytes (content : Bytes) : ByteStream := ⟨Cursor.kind, Cursor.start content⟩

end Discern
