import Discern.Word

/-!
# Document values

Signature libraries and configurations are documents in several encodings.  All
encodings are read into one type of values, `Datum`, and the readers of this
module turn such values into the types of the library.

A record is a map with known field names.  It may be written as a sequence of its
fields in their order as well.  A field that occurs twice is refused, and a strict
record refuses fields it does not know.
-/

namespace Discern

/-- **A value of a document.**  `plain` is a scalar without quotes in an encoding
where such a scalar has no type of its own; `special` is a scalar of another kind,
such as a date.  A map keeps its entries in order, repeated keys included. -/
inductive Datum where
  | null
  | bool (b : Bool)
  | integer (n : Int)
  | real (significand exponent : Int)
  | text (s : String)
  | plain (s : String)
  | special (s : String)
  | seq (items : List Datum)
  | map (entries : List (String × Datum))
deriving Inhabited

namespace Datum

/-- A natural number as a value. -/
def nat (n : Nat) : Datum := .integer n

/-- A list of strings as a value. -/
def texts (ss : List String) : Datum := .seq (ss.map .text)

/-! ## Scalars -/

/-- The spellings of "nothing" among plain scalars. -/
def isPlainNull (s : String) : Bool := ["", "~", "null", "Null", "NULL"].contains s

/-- Digits of a base, at least one. -/
def readBase? (base : Nat) (cs : List Char) : Option Nat :=
  if cs.isEmpty then none
  else cs.foldlM (fun value c => do
    let digit ←
      if '0' ≤ c ∧ c ≤ '9' then some (c.toNat - 48)
      else if 'a' ≤ c ∧ c ≤ 'f' then some (c.toNat - 87)
      else if 'A' ≤ c ∧ c ≤ 'F' then some (c.toNat - 55)
      else none
    if digit < base then some (base * value + digit) else none) 0

/-- The natural number that a plain scalar writes: decimal without leading zeros,
or in base 16, 8 or 2 after `0x`, `0o` or `0b`, with an optional `+`. -/
def plainNat? (s : String) : Option Nat :=
  let digits := match s.toList with
    | '+' :: rest => rest
    | cs => cs
  match digits with
  | '0' :: 'x' :: rest => readBase? 16 rest
  | '0' :: 'o' :: rest => readBase? 8 rest
  | '0' :: 'b' :: rest => readBase? 2 rest
  | ['0'] => some 0
  | '0' :: _ => none
  | cs => readBase? 10 cs

/-- The natural number that a value is. -/
def nat? : Datum → Option Nat
  | .integer (.ofNat n) => some n
  | .plain s => plainNat? s
  | _ => none

def word32? (d : Datum) : Option UInt32 :=
  match d.nat? with
  | some n => if n < UInt32.size then some (UInt32.ofNat n) else none
  | none => none

def word64? (d : Datum) : Option UInt64 :=
  match d.nat? with
  | some n => if n < UInt64.size then some (UInt64.ofNat n) else none
  | none => none

def bool? : Datum → Option Bool
  | .bool b => some b
  | .plain s =>
    if ["true", "True", "TRUE"].contains s then some true
    else if ["false", "False", "FALSE"].contains s then some false
    else none
  | _ => none

/-- A string; a plain scalar is one too. -/
def string? : Datum → Option String
  | .text s => some s
  | .plain s => some s
  | _ => none

/-- One of several names, alone or as the only key of a map to nothing. -/
def name? : Datum → Option String
  | .text s => some s
  | .plain s => some s
  | .map [(s, .null)] => some s
  | _ => none

/-! ## Sequences and records -/

/-- A value that may be nothing. -/
def nullable? {α : Type} (read : Datum → Option α) : Datum → Option (Option α)
  | .null => some none
  | .plain s => if isPlainNull s then some none else (read (.plain s)).map some
  | d => (read d).map some

/-- A sequence of values of one kind. -/
def seq? {α : Type} (read : Datum → Option α) : Datum → Option (List α)
  | .seq items => items.mapM read
  | .plain "" => some []
  | _ => none

/-- The first value of a key. -/
def find? (key : String) (entries : List (String × Datum)) : Option Datum :=
  (entries.find? (·.1 == key)).map Prod.snd

/-- **The fields of a record,** in the order of `names`.  A strict record has no
other fields. -/
def fields? (names : List String) (strict : Bool) : Datum → Option (List (Option Datum))
  | .map entries =>
    let keys := entries.map Prod.fst
    if names.any (1 < keys.count ·) then none
    else if strict && keys.any (!names.contains ·) then none
    else some (names.map (find? · entries))
  | .seq items =>
    if items.length ≤ names.length then
      some (items.map some ++ List.replicate (names.length - items.length) none)
    else none
  | .plain "" => some (names.map fun _ => none)
  | _ => none

/-- A field that has to be there. -/
def required {α : Type} (read : Datum → Option α) (field : Option Datum) : Option α :=
  field.bind read

/-- A field with a value to take where it is missing. -/
def withDefault {α : Type} (default : α) (read : Datum → Option α) : Option Datum → Option α
  | none => some default
  | some d => read d

/-- A field that may be missing or nothing. -/
def optional {α : Type} (read : Datum → Option α) : Option Datum → Option (Option α) :=
  withDefault none (nullable? read)

/-- A field of a record to be written, left out where there is nothing. -/
def entry? {α : Type} (key : String) (write : α → Datum) : Option α → List (String × Datum)
  | none => []
  | some a => [(key, write a)]

/-- Something or nothing. -/
def ofOption {α : Type} (write : α → Datum) : Option α → Datum
  | none => .null
  | some a => write a

end Datum

end Discern
