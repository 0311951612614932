/-!
# Sets of code points

A table of code points is written as a text of ascending ranges in hexadecimal
digits: `41-5a` is the range from U+0041 to U+005A, and `5f` is U+005F alone.
-/

namespace Discern.Unicode

/-- **A set of code points,** as a list of ranges with both ends included. -/
structure Ranges where
  bounds : Array (Nat × Nat)

/-- The number that hexadecimal digits write, small letters only. -/
def hexNat (cs : List Char) : Nat :=
  cs.foldl (fun n c => 16 * n + (if c ≤ '9' then c.toNat - 48 else c.toNat - 87)) 0

namespace Ranges

/-- The words of a text, separated by one space each. -/
def wordsOf (text : String) : List (List Char) :=
  go [] [] text.toList
where
  go (done : List (List Char)) (word : List Char) : List Char → List (List Char)
    | [] => (word.reverse :: done).reverse
    | ' ' :: rest => go (word.reverse :: done) [] rest
    | c :: rest => go done (c :: word) rest

/-- The range that `41-5a` or `5f` names. -/
def range (cs : List Char) : Nat × Nat :=
  match cs.dropWhile (· != '-') with
  | [] => (hexNat cs, hexNat cs)
  | _ :: last => (hexNat (cs.takeWhile (· != '-')), hexNat last)

/-- The set that a text of ranges names. -/
def ofText (text : String) : Ranges := ⟨((wordsOf text).map range).toArray⟩

def contains (ranges : Ranges) (code : Nat) : Bool :=
  ranges.bounds.any fun (first, last) => first ≤ code && code ≤ last

end Ranges

end Discern.Unicode
