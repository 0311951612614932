import Discern.Format
import Discern.Stream.Basic

/-!
# Probes

A detector looks at a stream by reading from its beginning as much or as little as it
likes, and then answers with a format or fails.  A `Probe` is such a look as a tree:
what is read decides how it goes on.
-/

namespace Discern

/-- **A look at a stream.** -/
inductive Probe where
  | answer (outcome : Except Fault FormatId)
  | read (amount : Nat) (next : Except Fault Bytes → Probe)
  | readUpTo (limit : Option Nat) (next : Except Fault Bytes → Probe)

namespace Probe

/-- **Take the look,** which leaves the stream where the reading stopped. -/
def run : Probe → ByteStream → Except Fault FormatId × ByteStream
  | answer outcome, s => (outcome, s)
  | read amount next, s =>
    let (got, s) := s.read amount
    (next got).run s
  | readUpTo limit next, s =>
    let (got, s) := s.readUpTo limit
    (next got).run s

/-- Read up to a limit and judge what was read; a fault is passed on. -/
def judge (limit : Option Nat) (verdict : Bytes → FormatId) : Probe :=
  readUpTo limit fun got => answer (got.map verdict)

end Probe

end Discern
