import Discern.Bytes
import Discern.Classification
import Discern.Stream.Error

/-!
# Positional sources

A source is read at positions and claims a length, which is a 64-bit word.  A source in memory
hands out the content that it holds.  The contents of any other are put together from reads at
rising positions, and a source that has nothing at a position before its claimed length is too
short.  Whatever the reads return, such contents are as long as the claimed length
(`Source.length_of_contents`).

They are put together in a buffer of the claimed length, which is allocated before the first read.
No buffer has more than `addressable` bytes: to ask for one ends the program, which is `none` here.
A length of 64 bits is a size in memory on the machines that are modelled, so that no source is
refused for a length that is no such size.
-/

namespace Discern

/-- **Content that is read at positions,** with the name of its file if it has one.
A read of `n` bytes brings at most `n`. -/
structure Source where
  length : UInt64
  name : Option String
  readAt : (position n : Nat) → Except Fault Bytes
  readAt_le : ∀ position n bytes, readAt position n = .ok bytes → bytes.length ≤ n
  /-- The content of a source in memory. -/
  held : Option Bytes

namespace Source

def isEmpty (s : Source) : Bool := s.length == 0

/-- The contents from a position up to the claimed length. -/
def contentsFrom (s : Source) (position : Nat) : Except Fault Bytes :=
  if position < s.length.toNat then
    match s.readAt position (s.length.toNat - position) with
    | .error fault => .error fault
    | .ok [] => .error .sourceTooShort
    | .ok (byte :: bytes) => do
      return byte :: bytes ++ (← contentsFrom s (position + (bytes.length + 1)))
  else .ok []
termination_by s.length.toNat - position

/-- **The complete contents** of a source, if there can be a buffer for them. -/
def contents (s : Source) : Option (Except Fault Bytes) :=
  match s.held with
  | some content => some (.ok content)
  | none => if s.length.toNat ≤ addressable then some (s.contentsFrom 0) else none

/-- A content that is held in memory. -/
def ofBytes (content : Bytes) (name : Option String) : Source where
  length := .ofNat content.length
  name
  readAt position n := .ok ((content.drop position).take n)
  readAt_le position n bytes h := by
    cases h
    exact List.length_take_le _ _
  held := some content

@[simp] theorem contents_ofBytes (content : Bytes) (name : Option String) :
    (ofBytes content name).contents = some (.ok content) := rfl

theorem length_contentsFrom (s : Source) (position : Nat) {bytes : Bytes}
    (h : s.contentsFrom position = .ok bytes) : bytes.length = s.length.toNat - position := by
  fun_induction contentsFrom s position generalizing bytes with
  | case1 position hp fault hr => cases h
  | case2 position hp hr => cases h
  | case3 position hp byte rest hr ih =>
    have hle := s.readAt_le _ _ _ hr
    cases hc : s.contentsFrom (position + (rest.length + 1)) with
    | error fault =>
      rw [hc] at h
      cases h
    | ok more =>
      rw [hc] at h
      cases h
      have := ih hc
      simp only [List.length_cons, List.length_append, List.cons_append] at hle ⊢
      omega
  | case4 position hp =>
    cases h
    simp only [List.length_nil]
    omega

section Read

variable {s : Source} (unheld : s.held = none)
include unheld

/-- Contents that fit into a buffer are put together from the first position on. -/
theorem contents_of_room (room : s.length.toNat ≤ addressable) :
    s.contents = some (s.contentsFrom 0) := by
  rw [contents, unheld]
  exact if_pos room

/-- There is no buffer for a length beyond what can be addressed. -/
theorem contents_of_beyond (beyond : addressable < s.length.toNat) : s.contents = none := by
  rw [contents, unheld]
  exact if_neg (Nat.not_le_of_lt beyond)

/-- Contents that were read are as long as the source claims to be. -/
theorem length_of_contents {bytes : Bytes} (h : s.contents = some (.ok bytes)) :
    bytes.length = s.length.toNat := by
  by_cases room : s.length.toNat ≤ addressable
  · rw [contents_of_room unheld room] at h
    exact length_contentsFrom s 0 (Option.some.inj h)
  · rw [contents_of_beyond unheld (Nat.lt_of_not_le room)] at h
    cases h

end Read

end Source

namespace Library

/-- **Classify a source** by its contents and its name. -/
def classifySource (library : Library) (source : Source) :
    Option (Except StreamError Classification) :=
  source.contents.map fun
    | .ok content => .ok (library.classify content source.name)
    | .error fault => .error ⟨.readingSource, fault⟩

/-- The formats of a source, the best first. -/
def identify (library : Library) (source : Source) : Option (Except StreamError (List FormatId)) :=
  (library.classifySource source).map (·.map Classification.formatIds)

end Library

end Discern
