import Discern.Document.Datum

/-!
# Tables in the making

The tables of a TOML document are filled from several places.  What may still be added
to a table depends on how it came to be, its `Origin`: a table that was only led
through may get a header later, one that a dotted key made may get more dotted keys, and
one that has a header gets no dotted keys from outside.  No key is given twice.
-/

namespace Discern.Toml

/-- **How a table came to be.** -/
inductive Origin where
  /-- By a header that leads through it. -/
  | implied
  /-- By a dotted key. -/
  | dotted
  /-- By its own header, or as a value. -/
  | declared
deriving DecidableEq, Inhabited

/-- **What a key of a table stands for.**  In a list of tables the last one is open. -/
inductive Node where
  | value (d : Datum)
  | table (origin : Origin) (entries : List (String × Node))
  | tables (items : List (List (String × Node)))
deriving Inhabited

/-- **A table in the making.** -/
structure Table where
  origin : Origin
  entries : List (String × Node)
deriving Inhabited

namespace Table

/-- Change what a key stands for, where that can be done. -/
def alter (key : String) (change : Option Node → Option Node) :
    List (String × Node) → Option (List (String × Node))
  | [] => do return [(key, ← change none)]
  | (k, node) :: rest =>
    if k = key then do return (k, ← change (some node)) :: rest
    else do return (k, node) :: (← alter key change rest)

/-- **Change the table that a path leads to.**  Tables that are missing on the way are
made; a path of a dotted key does not lead through declared tables. -/
def alterAt (dotted : Bool) (change : Table → Option Table) : List String → Table → Option Table
  | [], table => change table
  | key :: path, ⟨origin, entries⟩ => do
    let entries ← alter key (fun
      | none => do
        let ⟨o, es⟩ ← alterAt dotted change path ⟨if dotted then .dotted else .implied, []⟩
        return .table o es
      | some (.value _) => none
      | some (.table o es) => do
        if dotted && o = .declared then none
        let ⟨o, es⟩ ← alterAt dotted change path ⟨o, es⟩
        return .table o es
      | some (.tables items) => do
        let last ← items.getLast?
        let ⟨_, es⟩ ← alterAt dotted change path ⟨.declared, last⟩
        return .tables (items.dropLast ++ [es])) entries
    return ⟨origin, entries⟩

/-- **Give a value to a dotted key.**  Its path and nothing else has to have made the
table that it leads to. -/
def assign (path : List String) (key : String) (value : Datum) : Table → Option Table :=
  alterAt true (fun ⟨origin, entries⟩ => do
    if (origin = .dotted) ≠ (path ≠ []) then none
    let entries ← alter key (fun
      | none => some (.value value)
      | some _ => none) entries
    return ⟨origin, entries⟩) path

/-- **Declare a table** that was at most led through before. -/
def declare (path : List String) (key : String) : Table → Option Table :=
  alterAt false (fun ⟨origin, entries⟩ => do
    let entries ← alter key (fun
      | none => some (.table .declared [])
      | some (.table .implied es) => some (.table .declared es)
      | some _ => none) entries
    return ⟨origin, entries⟩) path

/-- **Open one more table** of a list of tables. -/
def append (path : List String) (key : String) : Table → Option Table :=
  alterAt false (fun ⟨origin, entries⟩ => do
    let entries ← alter key (fun
      | none => some (.tables [[]])
      | some (.tables items) => some (.tables (items ++ [[]]))
      | some _ => none) entries
    return ⟨origin, entries⟩) path

end Table

mutual

/-- What a key stands for as a value. -/
def Node.toDatum : Node → Datum
  | .value d => d
  | .table _ entries => .map (entriesToData entries)
  | .tables items => .seq (itemsToData items)

def entriesToData : List (String × Node) → List (String × Datum)
  | [] => []
  | (key, node) :: rest => (key, node.toDatum) :: entriesToData rest

def itemsToData : List (List (String × Node)) → List Datum
  | [] => []
  | entries :: rest => .map (entriesToData entries) :: itemsToData rest

end

/-- **A finished table.** -/
def Table.toDatum (table : Table) : Datum := .map (entriesToData table.entries)

end Discern.Toml
