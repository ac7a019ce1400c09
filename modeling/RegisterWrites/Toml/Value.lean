import RegisterWrites.Decimal

/-!
# The values and tables of TOML

The values of a TOML document (`Value`), and its tables while it is being read (`Node`). Tables
keep their keys in the order in which they were written. A table under construction remembers how
it came to be (`Origin`), because that decides who may still add to it: no key is given twice, no
table is defined twice, a dotted key adds only to tables that dotted keys or the headers of their
children made, and a written-out value is complete.
-/

namespace RegisterWrites.Toml

/-- A value. What a date or a time says is not kept, only that it is one. -/
inductive Value
  | string (text : String)
  | integer (n : Int)
  | float (x : Decimal.Floating)
  | boolean (b : Bool)
  | moment
  | array (items : List Value)
  | table (entries : List (String × Value))

/-! ## Tables under construction -/

/-- How a table came to be. -/
inductive Origin
  /-- By a header of its own, or as the document itself. -/
  | defined
  /-- As the parent of a table in a header. -/
  | implied
  /-- As the parent of the last key of a dotted key. -/
  | dotted
  deriving DecidableEq, Repr

/-- What a key of a table stands for while the document is being read. -/
inductive Node
  /-- A value that is complete. -/
  | value (v : Value)
  /-- A table to which keys may still be added. -/
  | table (origin : Origin) (entries : List (String × Node))
  /-- The tables under one repeated header; keys may be added to the last. -/
  | tables (items : List (List (String × Node)))

/-- The entries of a table, in the order in which they were made. -/
abbrev Entries := List (String × Node)

namespace Entries

/-- Puts `node` under `key`, which is there. -/
def replace (key : String) (node : Node) (entries : Entries) : Entries :=
  entries.map fun (k, n) => if k = key then (k, node) else (k, n)

def remove (key : String) (entries : Entries) : Entries :=
  entries.filter fun (k, _) => k ≠ key

/-- Applies `change` to the table at the end of a path. Tables that are missing on the way are made,
with the origin `made`; a path of dotted keys does not lead through a table that was defined. -/
def modify? (made : Origin) (change : Origin → Entries → Option Entries) :
    List String → Origin → Entries → Option Entries
  | [], origin, entries => change origin entries
  | key :: path, _, entries =>
    match entries.lookup key with
    | none => do
      let inner ← modify? made change path made []
      return entries ++ [(key, .table made inner)]
    | some (.value _) => none
    | some (.table origin inner) =>
      if made = .dotted ∧ origin = .defined then none
      else do
        let inner ← modify? made change path origin inner
        return replace key (.table origin inner) entries
    | some (.tables items) => do
      let last ← items.getLast?
      let last ← modify? made change path .defined last
      return replace key (.tables (items.dropLast ++ [last])) entries

/-- Adds the value `v` under the dotted key of `path` and `key`. The table that takes it is this
one, or one that dotted keys made. -/
def insert? (path : List String) (key : String) (v : Value) (entries : Entries) :
    Option Entries :=
  modify? .dotted (fun origin entries =>
    if (path = [] ∨ origin = .dotted) ∧ entries.lookup key = none then
      some (entries ++ [(key, .value v)])
    else none) path .defined entries

/-- Defines the table of the header of `path` and `key`, with the entries that `fill` adds. A table
that was only implied so far keeps its entries and moves to the end. -/
def define? (path : List String) (key : String) (fill : Entries → Option Entries)
    (entries : Entries) : Option Entries :=
  modify? .implied (fun _ entries =>
    match entries.lookup key with
    | none => do return entries ++ [(key, .table .defined (← fill []))]
    | some (.table .implied inner) => do
      return remove key entries ++ [(key, .table .defined (← fill inner))]
    | some _ => none) path .defined entries

/-- Adds a table, with the entries that `fill` adds, under the repeated header of `path` and
`key`. -/
def append? (path : List String) (key : String) (fill : Entries → Option Entries)
    (entries : Entries) : Option Entries :=
  modify? .implied (fun _ entries =>
    match entries.lookup key with
    | none => do return entries ++ [(key, .tables [← fill []])]
    | some (.tables items) => do return replace key (.tables (items ++ [← fill []])) entries
    | some _ => none) path .defined entries

end Entries

/-! ## What was read, as values -/

mutual

def Node.toValue : Node → Value
  | .value v => v
  | .table _ entries => .table (Node.toEntries entries)
  | .tables items => .array (Node.toItems items)

def Node.toEntries : List (String × Node) → List (String × Value)
  | [] => []
  | (key, node) :: entries => (key, node.toValue) :: Node.toEntries entries

def Node.toItems : List (List (String × Node)) → List Value
  | [] => []
  | entries :: items => .table (Node.toEntries entries) :: Node.toItems items

end

end RegisterWrites.Toml
