import StoreGraph.Storage.Memory

/-! # Shard pools

A pool owns a number of shards and routes each key to the shard numbered by the key's hash modulo
that number. The shards are either ready from the start, or opened one by one when they are first
needed; an attempt to open a shard may fail, and is then repeated when the shard is needed again.
-/

namespace StoreGraph

/-- How the shards of a pool come about. -/
inductive Opening where
  | ready
  /-- Shards are opened when they are first needed. `fault index attempt` is the failure of the
      attempt, counted from zero, to open the shard; none if it succeeds. -/
  | onDemand (fault : Nat → Nat → Option Error)

/-- The lasting part of a shard pool; its shards are held beside it. -/
structure ShardPool where
  state : Ref .pool
  hash : Bytes → UInt32
  count : Nat
  opening : Opening

/-- The store in a slot: one of the given stores, or one over the memory cell of its own. -/
def Slot.choose {α : Type _} (stock : List α) (ofMemory : Ref .memory → α) (default : α) : Slot → α
  | .stocked position => stock[position]?.getD default
  | .fresh cell => ofMemory cell

namespace ShardPool

def read (pool : ShardPool) : StoreM PoolState := return (← get).pools.get pool.state

def update (pool : ShardPool) (f : PoolState → PoolState) : StoreM Unit :=
  modify fun w => { w with pools := w.pools.modify pool.state f }

def owner (pool : ShardPool) (key : Bytes) : Nat := (pool.hash key).toNat % pool.count

/-- Open a shard: the given stores are handed out in turn, and without any the shard is a new
    in-memory store. `stock` is the number of given stores. -/
def openShard (pool : ShardPool) (stock index : Nat) (fault : Nat → Nat → Option Error) :
    StoreM Slot := do
  let attempt := (← pool.read).attempts.count index
  pool.update fun s => { s with attempts := s.attempts ++ [index] }
  match fault index attempt with
  | some e => throw (.context s!"open shard {index}" e)
  | none =>
    let slot ← if stock = 0 then Slot.fresh <$> Memory.create else pure (.stocked (index % stock))
    StoreM.report (.shardOpened index pool.count)
    pool.update fun s => { s with slots := s.slots.insert index slot }
    return slot

/-- Where a shard is found; it is opened if that has not been done. -/
def slot (pool : ShardPool) (stock index : Nat) : StoreM Slot :=
  match pool.opening with
  | .ready => return .stocked index
  | .onDemand fault => do
    match (← pool.read).slots.get? index with
    | some slot => return slot
    | none => pool.openShard stock index fault

/-- Show every shard to a visitor, in the order of their numbers, until it fails. -/
def iterate {τ : Type} (pool : ShardPool) (stock : Nat) (visit : Slot → VisitM τ Unit) :
    VisitM τ Unit :=
  (List.range pool.count).forM fun index => do
    let slot ← StoreM.visiting (pool.slot stock index)
    visit slot

/-- Close every shard that is open, the first time that the pool is closed. `closeSlot` closes the
    store in a slot. -/
def close (pool : ShardPool) (closeSlot : Slot → StoreM Unit) : StoreM Unit := do
  let state ← pool.read
  if state.closed then return
  pool.update ({ · with closed := true })
  match pool.opening with
  | .ready =>
    let slots := (List.range pool.count).map Slot.stocked
    let failures ← gatherFailures (numbered "close shard" (slots.map closeSlot))
    ofExcept (Error.ofFailures failures)
  | .onDemand _ =>
    let failures ← gatherFailures <| state.slots.entries.map fun (index, slot) =>
      (s!"close shard {index}", closeSlot slot)
    StoreM.report (.hashedPoolClosed failures.length)
    ofExcept (Error.ofFailures failures)

end ShardPool

end StoreGraph
