import StoreGraph.Config
import StoreGraph.Dedup
import StoreGraph.Record.Json
import StoreGraph.Registry

/-! # Resolving store graphs

A resolver builds the store that a record describes, together with every store below it. Records are
read from a bootstrap store by their identifiers. Each is built once, so records that are referred
to from several places share one live store; a record that refers to itself, directly or through
others, is refused.
-/

namespace StoreGraph

/-- Turns the stored bytes of a record into a document. -/
abbrev RecordDecoder := Bytes → Except Error Json

/-- Decode a record that is stored as JSON text. -/
def decodeJson : RecordDecoder := fun raw =>
  match Json.parse raw with
  | .ok document => .ok document
  | .error fault => .error (.deserialization fault.message)

/-- What a resolver builds store graphs with. -/
structure Resolver where
  registry : Registry
  decoder : RecordDecoder := decodeJson
  /-- Routes the keys of sharded stores. -/
  hasher : Hasher := .crc32c
  /-- The identifier of the record that is resolved when none is named. -/
  entry : String := "main"

/-- The stores built so far, by the identifiers of their records. -/
abbrev Built := SortedMap Bytes Store

abbrev BuildM := StateT Built StoreM

namespace Resolver

/-- A resolver that routes keys, and names the record to begin with, as a configuration says. -/
def ofConfig (registry : Registry) (config : Config) : Resolver :=
  { registry, hasher := config.hasher, entry := config.entry }

def decode (r : Resolver) (raw : Bytes) : Except Error Record := do
  let document ← r.decoder raw
  let kind := ((document.member? "kind").bind Json.text?).getD ""
  if Record.kinds.contains kind then Record.ofJson document
  else throw (.configuration s!"unknown storage kind '{kind}'")

/-- Add a context to the failure of a building action. -/
def inContext {α : Type} (doing : String) (x : BuildM α) : BuildM α := fun built =>
  withContext doing (x built)

/-- Build the stores of a list of identifiers, in the role that they have for their parent. -/
def nodes (node : Bytes → BuildM Store) (role : String) (ids : List String) :
    BuildM (List Store) :=
  ids.mapM fun id => inContext s!"get {role} '{id}'" (node (Bytes.ofText id))

def buildSharded (r : Resolver) (node : Bytes → BuildM Store) (ids : List String) :
    BuildM Store := do
  let shards ← nodes node "shard" ids
  Store.newArray r.hasher.hash shards

/-- How many of the stores of a redundant store have to accept a write. -/
def writeDemand (name : String) (stores : Nat) : Option Nat → Except Error Quorum
  | none => Quorum.all stores
  | some num =>
    if stores < num then
      .error (.configuration s!"'{name}' requires {num} writes but has {stores} storages")
    else Quorum.ofNat num

def buildRedundant (node : Bytes → BuildM Store) (name : String) (record : RedundantRecord) :
    BuildM Store := do
  let backs ← nodes node "backed storage" record.storages
  let offload ← match record.dedup with
    | none | some "" => Store.newMemory
    | some id =>
      inContext s!"get deduplication storage '{id}'" (node (Bytes.ofText id))
  let demand ← ofExcept (σ := World) (writeDemand name backs.length record.writeAtLeast)
  let dedup ← Dedup.newOffloaded offload
  Store.newRedundant (.quorum demand) backs dedup.scheme dedup.store

/-- Build the store of a record, with `node` for the records that it refers to. -/
def build (r : Resolver) (bootstrap : Store) (node : Bytes → BuildM Store) (id : Bytes) :
    BuildM Store := do
  let name := id.lossyText
  let raw ← withContext s!"load record '{name}'" (bootstrap.get id)
  let record ← withContext s!"decode record '{name}'" (ofExcept (σ := World) (r.decode raw))
  StoreM.report (.recordBuilding record.kind name)
  match record with
  | .simple url => withContext s!"create storage '{name}'" (r.registry.create url)
  | .sharded shards => buildSharded r node shards
  | .redundant redundant => buildRedundant node name redundant

/-- The store of a record: the one that was built for it, or a new one. The list holds the records
    that are being built and wait for this one; meeting one of them again is a cycle, and so is a
    list longer than the number of records, which the first argument bounds. -/
def node (r : Resolver) (bootstrap : Store) : Nat → List Bytes → Bytes → BuildM Store
  | 0, _, id => throw (.cycleDetected id.lossyText)
  | fuel + 1, waiting, id => do
    match (← get).get? id with
    | some store => return store
    | none =>
      if waiting.contains id then throw (.cycleDetected id.lossyText)
      let store ← build r bootstrap (node r bootstrap fuel (id :: waiting)) id
      modify fun built => built.insert id store
      return store

/-- Build the stores of several records in one graph. -/
def resolveAll (r : Resolver) (entries : List Bytes) (bootstrap : Store) :
    StoreM (List Store) := do
  let fuel := (← getThe World).entryCount + 2
  let (stores, _) ← (entries.mapM (node r bootstrap fuel [])).run .empty
  return stores

def resolve (r : Resolver) (entry : Bytes) (bootstrap : Store) : StoreM Store := do
  let fuel := (← getThe World).entryCount + 2
  let (store, _) ← (node r bootstrap fuel [] entry).run .empty
  return store

/-- Build the store of the record that is resolved when none is named. -/
def resolveDefault (r : Resolver) (bootstrap : Store) : StoreM Store :=
  r.resolve (Bytes.ofText r.entry) bootstrap

/-- The name by which descriptions call a hash. -/
def hasherWord : Hasher → String
  | .crc32c => "Crc32c"
  | .xxh64 => "Xxh64"

def describe (r : Resolver) : String :=
  s!"Resolver \x7b registry: {r.registry.describe}, hasher: {hasherWord r.hasher}, "
    ++ s!"entry: {Text.quoted r.entry}, .. \x7d"

end Resolver

end StoreGraph
