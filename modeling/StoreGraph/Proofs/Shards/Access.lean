import StoreGraph.Proofs.Shards.Cells

/-! # Access to the shards of a pool

What the state of a pool is made of, and what becomes of it when a shard is asked for. A pool that
opens its shards on demand finds a shard that is open, and tries to open one that is not; `Access`
says all that this can come to.
-/

namespace StoreGraph

namespace ShardPool

/-- The state of the pool in a world. -/
def stateIn (pool : ShardPool) (w : World) : PoolState := w.pools.get pool.state

/-- What a pool that was given a number of stores may find in a slot. -/
def Offers (stock : Nat) : Slot → Prop
  | .stocked position => position < stock
  | .fresh _ => stock = 0

/-- The world in which an attempt to open a shard was noted. -/
def tried (pool : ShardPool) (index : Nat) (w : World) : World :=
  w.changePool pool.state fun s => { s with attempts := s.attempts ++ [index] }

/-- The world in which a shard was put into its slot. -/
def placed (pool : ShardPool) (index : Nat) (slot : Slot) (w : World) : World :=
  (w.reporting (.shardOpened index pool.count)).changePool pool.state fun s =>
    { s with slots := s.slots.insert index slot }

/-- A shard is opened: one of the given stores is handed out, or a memory cell is created. -/
inductive Places (pool : ShardPool) (stock index : Nat) (w : World) : Slot → World → Prop where
  | handed (given : stock ≠ 0) : Places pool stock index w (.stocked (index % stock))
      (pool.placed index (.stocked (index % stock)) w)
  | created (own : stock = 0) : Places pool stock index w (.fresh ⟨w.memories.next⟩)
      (pool.placed index (.fresh ⟨w.memories.next⟩) w.withMemory)

/-- What an access to a shard comes to: the shard is open, opening it fails, or it is opened. -/
inductive Access (pool : ShardPool) (stock : Nat) (fault : Nat → Nat → Option Error) (index : Nat)
    (w : World) : Except Error Slot → World → Prop where
  | found {slot} (held : (pool.stateIn w).slots.get? index = some slot) :
      Access pool stock fault index w (.ok slot) w
  | refused {cause} (unopened : (pool.stateIn w).slots.get? index = none)
      (fails : fault index ((pool.stateIn w).attempts.count index) = some cause) :
      Access pool stock fault index w (.error (.context s!"open shard {index}" cause))
        (pool.tried index w)
  | opened {slot w'} (unopened : (pool.stateIn w).slots.get? index = none)
      (succeeds : fault index ((pool.stateIn w).attempts.count index) = none)
      (places : Places pool stock index (pool.tried index w) slot w') :
      Access pool stock fault index w (.ok slot) w'

section Accesses

variable {pool : ShardPool} {stock index : Nat} {fault : Nat → Nat → Option Error} {slot : Slot}
  {w w' : World}

theorem stateIn_changePool (w : World) (f : PoolState → PoolState) :
    pool.stateIn (w.changePool pool.state f) = f (pool.stateIn w) :=
  World.pool_changePool w pool.state f

theorem run_slot_held (onDemand : pool.opening = .onDemand fault)
    (held : (pool.stateIn w).slots.get? index = some slot) :
    (pool.slot stock index).run w = .ok slot w := by
  unfold stateIn at held
  simp only [ShardPool.slot, onDemand, ShardPool.read, EStateM.run_bind, EStateM.run_get,
    EStateM.run_pure, held]

theorem run_slot_unopened (onDemand : pool.opening = .onDemand fault)
    (unopened : (pool.stateIn w).slots.get? index = none) :
    (pool.slot stock index).run w = (pool.openShard stock index fault).run w := by
  unfold stateIn at unopened
  simp only [ShardPool.slot, onDemand, ShardPool.read, EStateM.run_bind, EStateM.run_get,
    EStateM.run_pure, unopened]

theorem stateIn_tried : pool.stateIn (pool.tried index w) =
    { pool.stateIn w with attempts := (pool.stateIn w).attempts ++ [index] } :=
  stateIn_changePool w _

theorem Places.stateIn (places : Places pool stock index w slot w') :
    pool.stateIn w' =
      { pool.stateIn w with slots := (pool.stateIn w).slots.insert index slot } := by
  cases places with
  | handed given => exact stateIn_changePool (w.reporting _) _
  | created own => exact stateIn_changePool (w.withMemory.reporting _) _

theorem Places.offered (places : Places pool stock index w slot w') : Offers stock slot := by
  cases places with
  | handed given => exact Nat.mod_lt _ (Nat.pos_of_ne_zero given)
  | created own => exact own

theorem access (onDemand : pool.opening = .onDemand fault) (stock index : Nat) (w : World) :
    Access pool stock fault index w (outcome (pool.slot stock index) w)
      (stateAfter (pool.slot stock index) w) := by
  cases held : (pool.stateIn w).slots.get? index with
  | some slot =>
    have run : (pool.slot stock index).run w = .ok slot w := run_slot_held onDemand held
    rw [outcome_ok run, stateAfter_ok run]
    exact .found held
  | none =>
    have run : (pool.slot stock index).run w = (pool.openShard stock index fault).run w :=
      run_slot_unopened onDemand held
    rw [Partition.run_openShard] at run
    cases failed : fault index ((pool.stateIn w).attempts.count index) with
    | some cause =>
      unfold ShardPool.stateIn at failed
      rw [failed] at run
      rw [outcome_error run, stateAfter_error run]
      exact .refused held failed
    | none =>
      unfold ShardPool.stateIn at failed
      rw [failed] at run
      by_cases own : stock = 0
      · simp only [if_pos own] at run
        rw [outcome_ok run, stateAfter_ok run]
        exact .opened held failed (.created own)
      · simp only [if_neg own] at run
        rw [outcome_ok run, stateAfter_ok run]
        exact .opened held failed (.handed own)

end Accesses

end ShardPool

end StoreGraph
