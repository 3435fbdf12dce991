import StoreGraph.Json.Parser
import StoreGraph.Json.Printer
import StoreGraph.Record
import StoreGraph.Store

/-! # Records as JSON documents

A record is written as an object whose member `kind` names the kind of store. Reading is lenient
about form: members that mean nothing are ignored, and an array stands for an object whose members
are its items, in order, of which the last ones may be missing if they have defaults.
-/

namespace StoreGraph.Record

open StoreGraph.Json (lookup?)

/-- The object that holds a member for every value that is set. -/
def optionalMember (name : String) : Option Json → List (String × Json)
  | none => []
  | some value => [(name, value)]

def idsToJson (ids : List String) : Json := .array (ids.map Json.text)

def toJson : Record → Json
  | simple url => .object [("kind", .text "simple"), ("url", .text url)]
  | sharded shards => .object [("kind", .text "sharded"), ("shards", idsToJson shards)]
  | redundant r =>
    .object <|
      [("kind", .text "redundant"),
        ("read", .object (if r.readFirst then [("first", .object [])] else [])),
        ("write", .object (optionalMember "atleast"
          (r.writeAtLeast.map fun num => .object [("num", .ofNat num)])))]
      ++ optionalMember "dedup" (r.dedup.map Json.text)
      ++ [("storages", idsToJson r.storages)]

def toBytes (r : Record) : Bytes := r.toJson.toBytes

def save (r : Record) (bootstrap : Store) (id : String) : StoreM Unit :=
  bootstrap.put (Bytes.ofText id) r.toBytes

/-- The values of the named members: of an object by name, and of an array by position. An array
    must not be longer than the list of names, and nothing else has members. -/
def fields? (names : List String) : Json → Option (List (Option Json))
  | .object members => some (names.map (lookup? · members))
  | .array items =>
    if items.length ≤ names.length then some ((List.range names.length).map (items[·]?)) else none
  | _ => none

def texts? (document : Json) : Option (List String) := do (← document.items?).mapM Json.text?

/-- A list of identifiers; none at all counts as an empty list. -/
def ids? : Option Json → Option (List String)
  | none | some .null => some []
  | some document => texts? document

/-- A value that may be missing or `null`, and otherwise has to be read. -/
def optional? {α : Type} (read : Json → Option α) : Option Json → Option (Option α)
  | none | some .null => some none
  | some document => (read document).map some

/-- A member `first`, which holds no further members that mean anything. -/
def firstOfJson? (document : Json) : Option Unit := (fields? [] document).map fun _ => ()

/-- The reading rule: is `first` set? -/
def readOfJson? : Option Json → Option Bool
  | none => some false
  | some document => do
    match ← fields? ["first"] document with
    | [first] => return (← optional? firstOfJson? first).isSome
    | _ => none

/-- The number of stores that have to accept a write. -/
def numOfJson? (document : Json) : Option Nat := do
  match ← fields? ["num"] document with
  | [some num] =>
    let n ← num.nat?
    if n < UInt64.size then some n else none
  | _ => none

/-- The writing rule: how many stores have to accept a write, if that is set? -/
def writeOfJson? : Option Json → Option (Option Nat)
  | none => some none
  | some document => do
    match ← fields? ["atleast"] document with
    | [atleast] => optional? numOfJson? atleast
    | _ => none

/-- The record of a kind, from the document that holds its members. -/
def ofKind? (kind : String) (document : Json) : Option Record :=
  match kind with
  | "simple" => do
    match ← fields? ["url"] document with
    | [some url] => return simple (← url.text?)
    | _ => none
  | "sharded" => do
    match ← fields? ["shards"] document with
    | [shards] => return sharded (← ids? shards)
    | _ => none
  | "redundant" => do
    match ← fields? ["read", "write", "dedup", "storages"] document with
    | [read, write, dedup, storages] =>
      return redundant {
        readFirst := ← readOfJson? read
        writeAtLeast := ← writeOfJson? write
        dedup := ← optional? Json.text? dedup
        storages := ← ids? storages }
    | _ => none
  | _ => none

/-- The record that a document is. In an array the kind comes first. -/
def ofJson? : Json → Option Record
  | .object members => do
    let kind ← (← lookup? "kind" members).text?
    ofKind? kind (.object members)
  | .array (kind :: rest) => do ofKind? (← kind.text?) (.array rest)
  | _ => none

/-- The failure of a document that is no record. -/
def notARecord : Error := .deserialization "the document is not a record"

/-- The record that a document is. -/
def ofJson (document : Json) : Except Error Record :=
  match ofJson? document with
  | some record => .ok record
  | none => .error notARecord

end StoreGraph.Record
