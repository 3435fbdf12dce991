import StoreGraph.Bytes
import StoreGraph.Error
import StoreGraph.Hasher
import StoreGraph.Toml.Parser

/-! # Configuration

The values that stores are composed with when nothing else is given. They are read from a TOML
document, in which every section and every value may be missing.
-/

namespace StoreGraph

structure Config where
  /-- Section `shard`: the hash that routes keys. -/
  hasher : Hasher := .crc32c
  /-- Section `dedup`: the number of keys that remain after old ones were dropped. -/
  maxKeys : Nat := 10000
  /-- Section `dedup`: old keys are dropped at so many times that number. -/
  cleanFactor : Nat := 2
  /-- Section `queue`: the number of items that a queue keeps, if it is bounded. -/
  limit : Option Nat := none
  /-- Section `resolver`: the identifier of the record that is resolved when none is named. -/
  entry : String := "main"
  deriving Repr, DecidableEq, Inhabited

/-- What is found where a configuration is looked for. -/
inductive ConfigFile where
  | absent
  /-- Something that cannot be read, for the reason given. -/
  | unreadable (reason : String)
  /-- A file with these bytes. -/
  | contents (bytes : Bytes)

namespace Config

open Toml (Value)

/-- The failure of a document in which a value has the wrong form. -/
def invalid (name : String) : Error := .configuration s!"invalid value for {name}"

/-- The values under the names of a section: of a table by name, and of an array by position. Values
    under other names mean nothing, and a date is a section that holds nothing else. -/
def fields? (names : List String) : Value → Option (List (Option Value))
  | .table entries => some (names.map (Toml.lookup? · entries))
  | .array items => some ((List.range names.length).map (items[·]?))
  | .datetime _ => some (names.map fun _ => none)
  | _ => none

/-- Read a value that may be missing. -/
def valueOr {α : Type} (name : String) (read : Value → Option α) (default : α) :
    Option Value → Except Error α
  | none => .ok default
  | some value =>
    match read value with
    | some a => .ok a
    | none => .error (invalid name)

def nat? : Value → Option Nat
  | .integer (.ofNat n) => some n
  | _ => none

def text? : Value → Option String
  | .text s => some s
  | _ => none

/-- A hash: its name, or a table with an empty table or array under its name. -/
def hasher? : Value → Option Hasher
  | .text name => Hasher.ofName? name
  | .table [(name, .table [])] | .table [(name, .array [])] => Hasher.ofName? name
  | _ => none

/-- Read the values of a section. -/
def sectionFields (name : String) (names : List String) (entries : List (String × Value)) :
    Except Error (List (Option Value)) :=
  match Toml.lookup? name entries with
  | none => .ok (names.map fun _ => none)
  | some value =>
    match fields? names value with
    | some values => .ok values
    | none => .error (invalid name)

/-- The configuration that the entries of a document give. -/
def ofEntries (entries : List (String × Value)) : Except Error Config := do
  let shard ← sectionFields "shard" ["hasher"] entries
  let dedup ← sectionFields "dedup" ["max_keys", "clean_factor"] entries
  let queue ← sectionFields "queue" ["limit"] entries
  let resolver ← sectionFields "resolver" ["entry"] entries
  let value (values : List (Option Value)) (position : Nat) : Option Value := values[position]?.join
  return {
    hasher := ← valueOr "hasher" hasher? .crc32c (value shard 0)
    maxKeys := ← valueOr "max_keys" nat? 10000 (value dedup 0)
    cleanFactor := ← valueOr "clean_factor" nat? 2 (value dedup 1)
    limit := ← valueOr "limit" (fun v => (nat? v).map some) none (value queue 0)
    entry := ← valueOr "entry" text? "main" (value resolver 0) }

/-- The configuration that a TOML document gives. -/
def parse (s : String) : Except Error Config :=
  match Toml.parse s with
  | .error fault => .error (.configuration fault.message)
  | .ok entries => ofEntries entries

/-- The configuration that a file gives; without a file, every value has its default. -/
def load (path : String) : ConfigFile → Except Error Config
  | .absent => .ok {}
  | .unreadable reason => .error (.io reason)
  | .contents bytes =>
    match bytes.text? with
    | none => .error (.io "stream did not contain valid UTF-8")
    | some s =>
      match parse s with
      | .ok config => .ok config
      | .error e => .error (.context s!"load config {path}" e)

end Config

end StoreGraph
