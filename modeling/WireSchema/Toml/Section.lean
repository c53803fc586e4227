import WireSchema.Document.Value

/-!
# The tables of a TOML document

While a TOML document is read, its tables remember how they came to be, because that decides what
may still be added to them: a table with a header of its own is given no second header, a table
made by a dotted key grows by dotted keys only, and a table written between braces is complete.

## Main definitions

* `Origin`, `Node`: a table and its origin, a list of tables, or a complete value.
* `assign?`: give a dotted key a value.
* `declareTable?`, `declareItem?`: open a table, or append a table to a list.
* `within?`: change the table that a header names.
* `toEntries`: the finished table.
-/

namespace WireSchema.Toml

/-- How a table came to be. -/
inductive Origin
  /-- It has a header of its own. -/
  | header
  /-- It was made on the way to a table inside it. -/
  | implied
  /-- It was made by a dotted key. -/
  | dotted
  deriving DecidableEq, Repr

/-- A part of a document that is being read. -/
inductive Node
  /-- A value that is complete. -/
  | value (v : Value)
  | table (origin : Origin) (entries : List (String × Node))
  /-- A list of tables, the last of which is open. -/
  | tables (items : List (List (String × Node)))

/-- The entries of a table that is being read. -/
abbrev Entries := List (String × Node)

/-- Give the key of an entry another node. -/
def replaceEntry (key : String) (node : Node) : Entries → Entries
  | [] => []
  | (k, n) :: es => if k == key then (k, node) :: es else (k, n) :: replaceEntry key node es

/-- Give a dotted key a value. The key must be new, and the tables on its way must have been made
by dotted keys or be made now; a table that was only implied may be passed through. -/
def assign? (es : Entries) : List String → Value → Option Entries
  | [], _ => none
  | [key], v =>
    match es.lookup key with
    | none => some (es ++ [(key, .value v)])
    | some _ => none
  | key :: next :: keys, v =>
    match es.lookup key with
    | none => do
      let inner ← assign? [] (next :: keys) v
      return es ++ [(key, .table .dotted inner)]
    | some (.table .dotted inner) => do
      let inner ← assign? inner (next :: keys) v
      return replaceEntry key (.table .dotted inner) es
    | some (.table .implied inner) => do
      guard (!keys.isEmpty)
      let inner ← assign? inner (next :: keys) v
      return replaceEntry key (.table .implied inner) es
    | some _ => none

/-- Open a table. It must be new, or have been implied so far. -/
def declareTable? (key : String) (es : Entries) : Option Entries :=
  match es.lookup key with
  | none => some (es ++ [(key, .table .header [])])
  | some (.table .implied inner) => some (replaceEntry key (.table .header inner) es)
  | some _ => none

/-- Append a table to a list of tables, which may be new. -/
def declareItem? (key : String) (es : Entries) : Option Entries :=
  match es.lookup key with
  | none => some (es ++ [(key, .tables [[]])])
  | some (.tables items) => some (replaceEntry key (.tables (items ++ [[]])) es)
  | some _ => none

/-- Change the table at the end of a path. A list of tables stands for its last table, and tables
that are missing are implied. -/
def within? (es : Entries) (f : Entries → Option Entries) : List String → Option Entries
  | [] => f es
  | key :: keys =>
    match es.lookup key with
    | none => do
      let inner ← within? [] f keys
      return es ++ [(key, .table .implied inner)]
    | some (.table origin inner) => do
      let inner ← within? inner f keys
      return replaceEntry key (.table origin inner) es
    | some (.tables items) => do
      let inner ← within? (items.getLast?.getD []) f keys
      return replaceEntry key (.tables (items.dropLast ++ [inner])) es
    | some (.value _) => none

mutual

/-- The value of a node. -/
def Node.toValue : Node → Value
  | .value v => v
  | .table _ es => .table (toEntries es)
  | .tables items => .list (toItems items)

/-- The entries of a finished table. -/
def toEntries : Entries → List (String × Value)
  | [] => []
  | (key, node) :: es => (key, node.toValue) :: toEntries es

/-- The tables of a finished list. -/
def toItems : List Entries → List Value
  | [] => []
  | es :: items => .table (toEntries es) :: toItems items

end

end WireSchema.Toml
