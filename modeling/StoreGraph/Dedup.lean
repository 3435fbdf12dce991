import StoreGraph.Store

/-! # Dedups

A dedup is a way to remember keys together with the store that it remembers them in. Several dedups
may share a store, and several holders a dedup.
-/

namespace StoreGraph

structure Dedup where
  scheme : DedupScheme
  store : Store

namespace Dedup

def isSaved (d : Dedup) (key : Bytes) : StoreM Bool := d.scheme.isSaved d.store.storage key

def save (d : Dedup) (key : Bytes) : StoreM Unit := d.scheme.save d.store.storage key

/-- Empty the store, where the scheme does so at all and the store is able to. -/
def clear (d : Dedup) : StoreM Unit := d.scheme.clear d.store.storage

/-- Begin a new epoch, where the scheme knows of epochs. -/
def reset (d : Dedup) : StoreM Unit := d.scheme.reset

/-- The ages of keys that a store already holds. A key that vanishes before its marker is read is
    left out. The second argument holds the ages so far, and in `next` the newest sequence number.
    -/
def agesOf (store : Store) : KeyAges → List Bytes → StoreM KeyAges
  | ages, [] => return ages
  | ages, key :: rest => do
    match ← store.find? key with
    | none => agesOf store ages rest
    | some marker =>
      let sequence := markerSequence marker
      agesOf store { ages.insert key sequence with next := max ages.next sequence } rest

/-- A naive dedup that keeps `maxKeys` keys once `maxKeys * cleanFactor` are stored, and begins with
    the keys that the store already holds. -/
def newNaive (store : Store) (maxKeys cleanFactor : Nat) : StoreM Dedup := do
  if maxKeys = 0 then throw (.configuration "naive dedup requires max_keys > 0")
  if cleanFactor = 0 then throw (.configuration "naive dedup requires clean_factor >= 1")
  let threshold := maxKeys * cleanFactor
  if UInt64.size ≤ threshold then
    throw (.configuration s!"naive dedup threshold overflows: {maxKeys} x {cleanFactor}")
  let known ← agesOf store {} (← store.allKeys)
  let known := { known with next := known.next + 1 }
  StoreM.report (.dedupLoaded known.size)
  let w ← getThe World
  let (cell, ages) := w.ages.alloc known
  set { w with ages }
  return ⟨.naive cell ⟨maxKeys, threshold⟩, store⟩

/-- An offloaded dedup, in an epoch of its own. -/
def newOffloaded (store : Store) : StoreM Dedup := do
  let token ← StoreM.draw
  let w ← getThe World
  let (cell, tokens) := w.tokens.alloc token
  set { w with tokens }
  return ⟨.offloaded cell, store⟩

end Dedup

end StoreGraph
