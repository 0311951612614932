/-!
# Scanners

A scanner reads a value from the front of a text and leaves the rest, or fails.
Scanners are put together with `do`; what a failed one has read is given back to
the next alternative of `<|>`.
-/

namespace Discern.Text

/-- **A reader of the front of a text.** -/
abbrev Scan := StateT (List Char) Option

namespace Scan

variable {α β : Type}

/-- Read a whole text. -/
def all? (p : Scan α) (text : List Char) : Option α :=
  match p.run text with
  | some (a, []) => some a
  | _ => none

/-- Any one character. -/
def any : Scan Char := fun
  | [] => none
  | c :: rest => some (c, rest)

/-- One character that passes a test. -/
def satisfy (test : Char → Bool) : Scan Char := fun
  | [] => none
  | c :: rest => if test c then some (c, rest) else none

/-- This very character. -/
def char (c : Char) : Scan Unit := fun
  | [] => none
  | d :: rest => if d == c then some ((), rest) else none

/-- These very characters. -/
def literal (cs : List Char) : Scan Unit := cs.forM char

/-- The next character, which stays in the text. -/
def peek : Scan (Option Char) := fun cs => some (cs.head?, cs)

/-- The longest run of characters that pass a test. -/
def takeWhile (test : Char → Bool) : Scan (List Char) :=
  fun cs => some (cs.takeWhile test, cs.dropWhile test)

/-- The longest run of characters that pass a test, at least one. -/
def takeWhile1 (test : Char → Bool) : Scan (List Char) := do
  let cs ← takeWhile test
  if cs.isEmpty then failure else return cs

/-- Drop the longest run of characters that pass a test. -/
def skipWhile (test : Char → Bool) : Scan Unit := fun cs => some ((), cs.dropWhile test)

/-- Nothing is left. -/
def done : Scan Unit := fun
  | [] => some ((), [])
  | _ => none

/-- Nothing where the scanner fails. -/
def optional? (p : Scan α) : Scan (Option α) := fun cs =>
  match p.run cs with
  | some (a, rest) => some (some a, rest)
  | none => some (none, cs)

/-- **Repeat a scanner** until it fails or no text is left.  Each time it should read
something: it is repeated at most as often as there are characters. -/
def many (p : Scan α) : Scan (List α) := fun cs => some (go cs.length [] cs)
where
  go : (count : Nat) → (done : List α) → List Char → List α × List Char
    | 0, done, cs => (done.reverse, cs)
    | _, done, [] => (done.reverse, [])
    | count + 1, done, cs =>
      match p.run cs with
      | none => (done.reverse, cs)
      | some (a, rest) => go count (a :: done) rest

/-- Values with a separator between them, at least one. -/
def separated (p : Scan α) (sep : Scan Unit) : Scan (List α) := do
  let first ← p
  let rest ← many (do sep; p)
  return first :: rest

/-- One hexadecimal, octal or decimal digit of this base. -/
def digitOf (base : Nat) : Scan Nat := do
  let c ← any
  let n :=
    if '0' ≤ c ∧ c ≤ '9' then c.toNat - 48
    else if 'a' ≤ c ∧ c ≤ 'f' then c.toNat - 87
    else if 'A' ≤ c ∧ c ≤ 'F' then c.toNat - 55
    else base
  if n < base then return n else failure

/-- The number that `count` hexadecimal digits write. -/
def hexNumber (count : Nat) : Scan Nat :=
  go count 0
where
  go : (count value : Nat) → Scan Nat
    | 0, value => return value
    | count + 1, value => do go count (16 * value + (← digitOf 16))

end Scan

end Discern.Text
