import StoreGraph.Action

/-! # The storage contract

What every store can do: keys and values are arbitrary byte strings, `put` overwrites, `get` of an
absent key fails as "not found", and `del` of an absent key succeeds. Everything else in the library
is built over this contract and never looks behind it.
-/

namespace StoreGraph

/-- The operations of a store. -/
structure Storage where
  put : Bytes → Bytes → StoreM Unit
  get : Bytes → StoreM Bytes
  del : Bytes → StoreM Unit
  /-- Show every key to a visitor, whose state has any type, until it fails. -/
  keys : {τ : Type} → (Bytes → VisitM τ Unit) → VisitM τ Unit
  /-- Release what the store holds on to. -/
  close : StoreM Unit := pure ()
  /-- Remove every key at once, where the store is able to. -/
  clear? : Option (StoreM Unit) := none

namespace Storage

/-- The store that drops every write and finds nothing. -/
def nop : Storage where
  put _ _ := pure ()
  get _ := throw .notFound
  del _ := pure ()
  keys _ := pure ()

/-- The value under a key, or none if the key is absent; any other failure stays a failure. -/
def find? (s : Storage) (key : Bytes) : StoreM (Option Bytes) := do
  match ← attempt (s.get key) with
  | .ok value => return some value
  | .error e => if e.isNotFound then return none else throw e

def contains (s : Storage) (key : Bytes) : StoreM Bool :=
  return (← s.find? key).isSome

/-- Every key, in the order in which the store shows them. -/
def allKeys (s : Storage) : StoreM (List Bytes) :=
  VisitM.collect [] (s.keys fun key => VisitM.note (· ++ [key]))

end Storage

end StoreGraph
