import StoreGraph.Bytes
import StoreGraph.World.Table

/-! # In-memory cells

The state of an in-memory store: its entries, and the stores nested in it under names of their own.
-/

namespace StoreGraph

/-- The contents of an in-memory store. -/
structure Memory where
  entries : SortedMap Bytes Bytes := .empty
  /-- The nested store under each name; names and keys do not meet. -/
  namespaces : SortedMap Bytes (Ref .memory) := .empty

namespace Memory

instance : Inhabited Memory := ⟨{}⟩

def put (m : Memory) (key value : Bytes) : Memory :=
  { m with entries := m.entries.insert key value }

def del (m : Memory) (key : Bytes) : Memory := { m with entries := m.entries.erase key }

/-- Remove every key; nested stores stay. -/
def clear (m : Memory) : Memory := { m with entries := .empty }

end Memory

end StoreGraph
