import StoreGraph.Storage.Probe
import StoreGraph.Storage.Redundant
import StoreGraph.Storage.Sharded

/-! # Live stores

A `Store` describes a live store: which cells it owns and which other stores it is built over. The
same description may occur in several places; it then denotes one live store that is shared. Its
behaviour, `Store.storage`, is computed from the description, layer by layer.

Main statements: `storages_eq_map`, a list of stores behaves as its members do.
-/

namespace StoreGraph

/-- A live store. -/
inductive Store where
  | memory (cell : Ref .memory)
  /-- The store that drops every write and finds nothing. -/
  | nop
  | probe (cell : Ref .probe) (traits : ProbeTraits)
  /-- A store over a pool of shards, with the stores that the pool hands out. -/
  | sharded (pool : ShardPool) (stock : List Store)
  /-- A store over several copies, with the dedup of its enumerations. -/
  | redundant (policy : ReplicaPolicy) (backs : List Store) (dedup : DedupScheme) (offload : Store)

namespace Store

instance : Inhabited Store := ⟨.nop⟩

mutual

/-- What a live store does. -/
def storage : Store → Storage
  | .memory cell => .memory cell
  | .nop => .nop
  | .probe cell traits => .probe cell traits
  | .sharded pool stock => .sharded pool (storages stock)
  | .redundant policy backs dedup offload =>
    .redundant policy (storages backs) dedup (storage offload)

def storages : List Store → List Storage
  | [] => []
  | s :: rest => storage s :: storages rest

end

theorem storages_eq_map (stores : List Store) : storages stores = stores.map storage := by
  induction stores with
  | nil => rfl
  | cons s rest ih => simp [storages, ih]

theorem length_storages (stores : List Store) : (storages stores).length = stores.length := by
  rw [storages_eq_map, List.length_map]

def put (s : Store) (key value : Bytes) : StoreM Unit := s.storage.put key value

def get (s : Store) (key : Bytes) : StoreM Bytes := s.storage.get key

def del (s : Store) (key : Bytes) : StoreM Unit := s.storage.del key

def keys {τ : Type} (s : Store) (visit : Bytes → VisitM τ Unit) : VisitM τ Unit :=
  s.storage.keys visit

def close (s : Store) : StoreM Unit := s.storage.close

def clear? (s : Store) : Option (StoreM Unit) := s.storage.clear?

def find? (s : Store) (key : Bytes) : StoreM (Option Bytes) := s.storage.find? key

def contains (s : Store) (key : Bytes) : StoreM Bool := s.storage.contains key

def allKeys (s : Store) : StoreM (List Bytes) := s.storage.allKeys

/-- Every key as text, with U+FFFD for whatever is not well-formed UTF-8. -/
def allKeysText (s : Store) : StoreM (List String) := return (← s.allKeys).map Bytes.lossyText

/-- The memory cell in which named stores can be nested, for a store that nests stores. -/
def namespaced? : Store → Option (Ref .memory)
  | .memory cell => some cell
  | _ => none

def newMemory : StoreM Store := return .memory (← Memory.create)

/-- A new probe without entries. -/
def newProbe (traits : ProbeTraits) (rules : List FaultRule) : StoreM Store :=
  return .probe (← Probe.create rules) traits

/-- Take the cell of a new shard pool. -/
def newPool : StoreM (Ref .pool) := do
  let w ← getThe World
  let (cell, pools) := w.pools.alloc {}
  set { w with pools }
  return cell

/-- A store sharded over a list of ready stores. -/
def newArray (hash : Bytes → UInt32) (shards : List Store) : StoreM Store := do
  if shards.isEmpty then throw (.configuration "shard pool requires at least one shard")
  if UInt32.size ≤ shards.length then throw (.configuration s!"too many shards: {shards.length}")
  StoreM.report (.arrayPoolCreating shards.length)
  return .sharded ⟨← newPool, hash, shards.length, .ready⟩ shards

/-- A store sharded over stores that are opened when they are first needed. The stores of the list
    are handed out in turn; an empty list stands for new in-memory stores. -/
def newHashed (count : Nat) (hash : Bytes → UInt32) (fault : Nat → Nat → Option Error)
    (stock : List Store) : StoreM Store := do
  if count = 0 then throw (.configuration "shard pool requires at least one shard")
  StoreM.report (.hashedPoolCreating count)
  return .sharded ⟨← newPool, hash, count, .onDemand fault⟩ stock

/-- A store over several copies. -/
def newRedundant (policy : ReplicaPolicy) (backs : List Store) (dedup : DedupScheme)
    (offload : Store) : StoreM Store := do
  if backs.isEmpty then
    throw (.configuration "redundant storage requires at least one backing storage")
  StoreM.report (.redundantCreating backs.length)
  return .redundant policy backs dedup offload

/-- Show the stores of a pool's shards to a visitor, in the order of their numbers. -/
def visitShards {τ : Type} (pool : ShardPool) (stock : List Store)
    (visit : Store → VisitM τ Unit) : VisitM τ Unit :=
  pool.iterate stock.length fun slot => visit (slot.choose stock .memory .nop)

/-- The store of the shard that owns a key; it is opened if that has not been done. -/
def shardOf (pool : ShardPool) (stock : List Store) (key : Bytes) : StoreM Store := do
  let slot ← pool.slot stock.length (pool.owner key)
  return slot.choose stock .memory .nop

end Store

end StoreGraph
