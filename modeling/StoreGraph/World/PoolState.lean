import StoreGraph.World.Table

/-! # The state of shard pools

A pool remembers which of its shards it has opened, which it was asked to open, and whether it was
closed.
-/

namespace StoreGraph

/-- Where an opened shard is found. -/
inductive Slot where
  /-- At a position in the list of stores that was given to the pool. -/
  | stocked (position : Nat)
  /-- In a memory cell of its own. -/
  | fresh (cell : Ref .memory)
  deriving Repr, DecidableEq

structure PoolState where
  closed : Bool := false
  /-- The shard numbers whose opening was attempted, in order. -/
  attempts : List Nat := []
  /-- The shards that are open, by number. -/
  slots : SortedMap Nat Slot := .empty

instance : Inhabited PoolState := ⟨{}⟩

end StoreGraph
