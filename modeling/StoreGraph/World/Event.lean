import StoreGraph.Bytes
import StoreGraph.Error

/-! # Events

What a store graph reports about its work while it works: a log of events, each with a level and a
text, and counters of what went wrong or was given up.
-/

namespace StoreGraph

/-- How much attention an event deserves. -/
inductive Level where
  | debug
  | info
  | warn
  deriving Repr, DecidableEq

inductive Event where
  | backendCreating (scheme : String)
  /-- A naive dedup indexed the keys its store already held. -/
  | dedupLoaded (keys : Nat)
  /-- A naive dedup dropped its oldest keys. -/
  | dedupEvicted (evicted left : Nat)
  /-- An offloaded dedup began a new epoch. -/
  | tokenRotated
  /-- A pool over a list of ready stores is being created. -/
  | arrayPoolCreating (shards : Nat)
  /-- A pool that opens its shards on demand is being created. -/
  | hashedPoolCreating (shards : Nat)
  | shardOpened (index shards : Nat)
  /-- A pool that opens its shards on demand was closed. -/
  | hashedPoolClosed (failures : Nat)
  | redundantCreating (stores : Nat)
  /-- A write reached enough stores, but not all of them. -/
  | writeDegraded (written stores : Nat) (failures : List Error)
  | queueOpened (oldest latest : UInt64)
  /-- A bounded queue could not drop its oldest item. -/
  | trimFailed (limit size : UInt64) (failure : Error)
  /-- A primary key was taken from a secondary key of a multi-value index. -/
  | primaryUnlinked (secondary : Bytes) (left : Nat)
  /-- The store that a record describes is being built. -/
  | recordBuilding (kind name : String)

namespace Event

def level : Event → Level
  | shardOpened .. => .info
  | writeDegraded .. | trimFailed .. => .warn
  | _ => .debug

def text : Event → String
  | backendCreating scheme => s!"Creating {scheme} backend"
  | dedupLoaded keys => s!"Naive dedup loaded {keys} existing keys"
  | dedupEvicted evicted left => s!"Naive dedup evicted {evicted} keys, {left} left"
  | tokenRotated => "Offloaded dedup rotated iteration token"
  | arrayPoolCreating shards => s!"Creating array shard pool with {shards} shards"
  | hashedPoolCreating shards => s!"Creating hashed shard pool with {shards} shards"
  | shardOpened index shards => s!"Opened shard {index}/{shards}"
  | hashedPoolClosed failures => s!"Closed hashed shard pool, {failures} shard errors"
  | redundantCreating stores => s!"Creating redundant storage over {stores} storages"
  | writeDegraded written stores failures =>
    s!"Write met threshold {written}/{stores} with {failures.length} failed storages: "
      ++ "; ".intercalate (failures.map Error.message)
  | queueOpened oldest latest => s!"Opened queue: oldest {oldest}, latest {latest}"
  | trimFailed limit size failure =>
    s!"Failed to trim queue to {limit} items (size {size}): {failure.message}"
  | primaryUnlinked secondary left =>
    s!"Unlinked '{secondary.lossyText}', {left} primary keys left"
  | recordBuilding kind name => s!"Building {kind} storage '{name}'"

end Event

/-- What is counted over the life of a store graph. -/
structure Counters where
  /-- Keys that naive dedups dropped. -/
  dedupEvictions : Nat := 0
  /-- Stores that missed a write which succeeded on the whole. -/
  writeFailures : Nat := 0
  /-- Times that a bounded queue could not drop its oldest item. -/
  trimFailures : Nat := 0
  deriving Repr, DecidableEq, Inhabited

end StoreGraph
