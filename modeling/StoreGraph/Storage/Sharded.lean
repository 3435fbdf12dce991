import StoreGraph.ShardPool

/-! # Sharded stores

A shard pool behind the storage contract. Each key belongs to one shard; all keys are shown shard by
shard. Only closing the sharded store closes its shards.
-/

namespace StoreGraph.Storage

def sharded (pool : ShardPool) (stock : List Storage) : Storage :=
  let shard : Slot → Storage := Slot.choose stock memory nop
  { put := fun key value => do
      let slot ← pool.slot stock.length (pool.owner key)
      (shard slot).put key value
    get := fun key => do
      let slot ← pool.slot stock.length (pool.owner key)
      (shard slot).get key
    del := fun key => do
      let slot ← pool.slot stock.length (pool.owner key)
      (shard slot).del key
    keys := fun visit => pool.iterate stock.length fun slot => (shard slot).keys visit
    close := pool.close fun slot => (shard slot).close }

end StoreGraph.Storage
