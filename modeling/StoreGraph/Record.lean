import StoreGraph.Json

/-! # Records

The description of a store graph: one record for each store, which names the stores below it by the
identifiers of their records.
-/

namespace StoreGraph

structure RedundantRecord where
  /-- Is the reading rule "the first store that has the value" set? It is the only one, and also
      applies when it is not set. -/
  readFirst : Bool := false
  /-- The number of stores that have to accept a write; all of them if it is not set. -/
  writeAtLeast : Option Nat := none
  /-- The identifier of the store in which shown keys are remembered; a new in-memory store if it is
      not set or empty. -/
  dedup : Option String := none
  /-- The identifiers of the stores that hold the copies. -/
  storages : List String := []
  deriving Repr, DecidableEq, Inhabited

/-- The description of one store of a graph. -/
inductive Record where
  | simple (url : String)
  /-- A store sharded over others. -/
  | sharded (shards : List String)
  /-- A store that keeps copies in others. -/
  | redundant (record : RedundantRecord)
  deriving Repr, DecidableEq, Inhabited

namespace Record

def kind : Record → String
  | simple _ => "simple"
  | sharded _ => "sharded"
  | redundant _ => "redundant"

def kinds : List String := ["simple", "sharded", "redundant"]

end Record

end StoreGraph
