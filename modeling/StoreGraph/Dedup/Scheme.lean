import StoreGraph.Storage
import StoreGraph.Word

/-! # Ways to remember keys

A dedup remembers keys in a store of its own and tells whether a key was saved before. Two schemes:

- *naive*: every saved key is stored with the sequence number of its last save; once a threshold is
  reached, the oldest keys are dropped until a given number remain.
- *offloaded*: every saved key is stored with the token of the current epoch, and only keys that
  carry this token count as saved. A new epoch forgets them all without touching the store.
-/

namespace StoreGraph

/-- How many keys a naive dedup keeps. -/
structure KeepLimits where
  /-- The number of keys that remain after old ones were dropped. -/
  maxKeys : Nat
  /-- The number of keys at which old ones are dropped. -/
  threshold : Nat
  deriving Repr, DecidableEq

/-- A way to remember keys, with the cell that holds what it knows beside its store. -/
inductive DedupScheme where
  /-- Keys by age, the oldest ones dropped. -/
  | naive (ages : Ref .ages) (limits : KeepLimits)
  /-- Keys by epoch. -/
  | offloaded (token : Ref .token)
  deriving Repr, DecidableEq

/-- The sequence number that a stored marker stands for; a malformed one counts as the oldest. -/
def markerSequence (marker : Bytes) : UInt64 := (Word.ofBytes? marker).getD 0

namespace DedupScheme

def readAges (ages : Ref .ages) : StoreM KeyAges := return (← get).ages.get ages

def updateAges (ages : Ref .ages) (f : KeyAges → KeyAges) : StoreM Unit :=
  modify fun w => { w with ages := w.ages.modify ages f }

def readToken (token : Ref .token) : StoreM UInt64 := return (← get).tokens.get token

/-- Drop the oldest key, the given number of times at most; the answer is how many were dropped. -/
def dropOldest (ages : Ref .ages) (store : Storage) : Nat → StoreM Nat
  | 0 => return 0
  | n + 1 => do
    match (← readAges ages).oldest? with
    | none => return 0
    | some oldest =>
      store.del oldest.2
      updateAges ages (·.remove oldest)
      return (← dropOldest ages store n) + 1

/-- Drop the oldest keys until the number to be kept remain. Nothing is reported or counted if the
    store fails to drop one. -/
def evict (ages : Ref .ages) (limits : KeepLimits) (store : Storage) : StoreM Unit := do
  let excess := (← readAges ages).size - limits.maxKeys
  let evicted ← dropOldest ages store excess
  StoreM.report (.dedupEvicted evicted (← readAges ages).size)
  StoreM.count fun c => { c with dedupEvictions := c.dedupEvictions + evicted }

def isSaved (store : Storage) (key : Bytes) : DedupScheme → StoreM Bool
  | naive .. => store.contains key
  | offloaded token => do
    match ← store.find? key with
    | some marker => return marker == Word.toBytes (← readToken token)
    | none => return false

def save (store : Storage) (key : Bytes) : DedupScheme → StoreM Unit
  | naive ages limits => do
    let sequence := (← readAges ages).next
    store.put key (Word.toBytes sequence)
    updateAges ages fun known => { known.insert key sequence with next := sequence + 1 }
    if limits.threshold ≤ (← readAges ages).size then evict ages limits store
  | offloaded token => do
    store.put key (Word.toBytes (← readToken token))

/-- Empty the store, where the scheme does so at all and the store is able to. -/
def clear (store : Storage) : DedupScheme → StoreM Unit
  | naive .. => return
  | offloaded _ => store.clear?.getD (return)

/-- Begin a new epoch, where the scheme knows of epochs: the next token differs from the last. -/
def reset : DedupScheme → StoreM Unit
  | naive .. => return
  | offloaded token => do
    let previous ← readToken token
    let drawn ← StoreM.draw
    let next := if drawn = previous then drawn + 1 else drawn
    modify fun w => { w with tokens := w.tokens.set token next }
    StoreM.report .tokenRotated

end DedupScheme

end StoreGraph
