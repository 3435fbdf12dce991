import StoreGraph.Store

/-! # Unique indexes

An index from secondary keys to primary keys that holds one primary key for each secondary key: the
store keeps the primary key as the value under the secondary key, and a later link wins.
-/

namespace StoreGraph

/-- An index with one primary key for each secondary key. -/
structure UniqueIndex where
  store : Store

namespace UniqueIndex

/-- Link a secondary key to a primary key, in place of the one it was linked to. -/
def link (index : UniqueIndex) (primary secondary : Bytes) : StoreM Unit :=
  index.store.put secondary primary

/-- Drop a secondary key, whatever it is linked to. -/
def unlink (index : UniqueIndex) (_primary secondary : Bytes) : StoreM Unit :=
  index.store.del secondary

/-- The primary key that a secondary key is linked to; "not found" if there is none. -/
def find (index : UniqueIndex) (secondary : Bytes) : StoreM (List Bytes) :=
  return [← index.store.get secondary]

/-- Show every linked pair, primary key first, in the order in which the store shows its keys. -/
def iterate {τ : Type} (index : UniqueIndex) (visit : Bytes → Bytes → VisitM τ Unit) :
    VisitM τ Unit :=
  index.store.keys fun secondary => do
    let primary ← StoreM.visiting (index.store.get secondary)
    visit primary secondary

end UniqueIndex

end StoreGraph
