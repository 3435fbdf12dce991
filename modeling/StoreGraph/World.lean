import StoreGraph.World.KeyAges
import StoreGraph.World.Event
import StoreGraph.World.Memory
import StoreGraph.World.PoolState
import StoreGraph.World.Probe

/-! # The state of live stores

A `World` holds every cell that a live store can read or write, together with what the stores have
reported so far and the source from which tokens are drawn.
-/

namespace StoreGraph

/-- The cells of all live stores, and the record of their work. -/
structure World where
  memories : Table .memory Memory := {}
  probes : Table .probe Probe := {}
  pools : Table .pool PoolState := {}
  ages : Table .ages KeyAges := {}
  tokens : Table .token UInt64 := {}
  /-- The random words that are drawn one after the other. -/
  randomness : Nat → UInt64
  drawn : Nat := 0
  /-- What was reported, the first event first. -/
  events : List Event := []
  counters : Counters := {}

namespace World

/-- The number of entries in all cells together. -/
def entryCount (w : World) : Nat :=
  (w.memories.cells.entries.flatMap fun cell => cell.2.entries.entries).length
    + (w.probes.cells.entries.flatMap fun cell => cell.2.entries.entries).length

end World

end StoreGraph
