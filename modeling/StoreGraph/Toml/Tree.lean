import StoreGraph.Toml

/-! # Assembling tables

The tables of a document grow while it is read: headers open tables, and names with dots reach into
tables below the open one. Each table remembers how it came about, because that decides what may
still be added to it.
-/

namespace StoreGraph.Toml

/-- How a table came about. -/
inductive Origin where
  /-- Only as the parent of a table that a header opened. -/
  | implied
  /-- As the parent of a name with dots. -/
  | dotted
  /-- By a header of its own. -/
  | opened
  deriving Repr, DecidableEq

/-- A part of a document that is still being read. -/
inductive Node where
  /-- A value that is complete. -/
  | leaf (value : Value)
  /-- A table that may grow. -/
  | table (origin : Origin) (entries : List (String × Node))
  /-- A list of tables, each opened by a header; the last one may grow. -/
  | tables (earlier : List Node) (last : List (String × Node))
  deriving Inhabited

/-- The entries of a table that may grow. -/
abbrev Entries := List (String × Node)

namespace Node

mutual

/-- The value that a part of a document is once it is complete. -/
def toValue : Node → Value
  | leaf value => value
  | table _ entries => .table (toEntries entries)
  | tables earlier last => .array (toValues earlier ++ [.table (toEntries last)])

/-- The values that the parts of a list are. -/
def toValues : List Node → List Value
  | [] => []
  | node :: rest => toValue node :: toValues rest

/-- The entries that the parts of a table are. -/
def toEntries : List (String × Node) → List (String × Value)
  | [] => []
  | (name, node) :: rest => (name, toValue node) :: toEntries rest

end

end Node

namespace Entries

/-- Put a part in the place of the one of the same name, or behind all others. -/
def set (name : String) (node : Node) : Entries → Entries
  | [] => [(name, node)]
  | (n, old) :: rest => if n = name then (name, node) :: rest else (n, old) :: set name node rest

/-- Add an entry under a name with dots, given as the names of the tables on the way and the name in
    the last of them. That table has to be one that names with dots brought about. -/
def add (key : String) (value : Value) : List String → Entries → Except Fault Entries
  | [], entries =>
    match lookup? key entries with
    | none => .ok (set key (.leaf value) entries)
    | some _ => .error (.duplicate key)
  | name :: path, entries =>
    match lookup? name entries with
    | none => do return set name (.table .dotted (← add key value path [])) entries
    | some (.leaf _) => .error (.notATable name)
    | some (.table origin inner) =>
      if origin = .opened ∨ (path.isEmpty ∧ origin ≠ .dotted) then .error (.duplicate name)
      else do return set name (.table origin (← add key value path inner)) entries
    | some (.tables earlier last) =>
      if path.isEmpty then .error (.duplicate name)
      else do return set name (.tables earlier (← add key value path last)) entries

/-- Change the table that a path of names leads to; in a list of tables the path leads on from the
    last one. Tables that are missing are implied. -/
def alter (f : Entries → Except Fault Entries) : List String → Entries → Except Fault Entries
  | [], entries => f entries
  | name :: path, entries =>
    match lookup? name entries with
    | none => do return set name (.table .implied (← alter f path [])) entries
    | some (.leaf _) => .error (.notATable name)
    | some (.table origin inner) =>
      do return set name (.table origin (← alter f path inner)) entries
    | some (.tables earlier last) =>
      do return set name (.tables earlier (← alter f path last)) entries

/-- Open the table of a name. -/
def openTable (name : String) (entries : Entries) : Except Fault Entries :=
  match lookup? name entries with
  | none => .ok (set name (.table .opened []) entries)
  | some (.table .implied inner) => .ok (set name (.table .opened inner) entries)
  | some _ => .error (.duplicate name)

/-- Open one more table in the list of a name. -/
def openNext (name : String) (entries : Entries) : Except Fault Entries :=
  match lookup? name entries with
  | none => .ok (set name (.tables [] []) entries)
  | some (.tables earlier last) =>
    .ok (set name (.tables (earlier ++ [.table .opened last]) []) entries)
  | some _ => .error (.duplicate name)

end Entries

end StoreGraph.Toml
