import StoreGraph.Queue.Stored

/-! # Bounded queues

A queue that keeps at most a given number of items: after each write the oldest items are dropped
until the bound holds again. A failure to drop one never fails the write; it is reported, and the
next write tries again.
-/

namespace StoreGraph

structure BoundedQueue where
  queue : StoredQueue
  limit : UInt64

namespace BoundedQueue

def ofQueue (queue : StoredQueue) (limit : UInt64) : Except Error BoundedQueue :=
  if limit = 0 then .error (.configuration "queue limit must be at least 1")
  else .ok ⟨queue, limit⟩

/-- Open the queue that a store holds, and bound it. -/
def openOn (store : Store) (limit : UInt64) : StoreM BoundedQueue := do
  ofExcept (ofQueue (← StoredQueue.openOn store) limit)

def size (q : BoundedQueue) : UInt64 := q.queue.size

/-- The number of items that can be added before old ones are dropped. -/
def available (q : BoundedQueue) : UInt64 := if q.limit < q.size then 0 else q.limit - q.size

/-- Drop the given number of items, the oldest first, as far as the store allows. -/
def dropOldest (limit : UInt64) : Nat → StoredQueue → StoreM StoredQueue
  | 0, q => return q
  | n + 1, q => do
    match ← attempt q.discard with
    | .ok q => dropOldest limit n q
    | .error e =>
      StoreM.report (.trimFailed limit q.size e)
      StoreM.count fun c => { c with trimFailures := c.trimFailures + 1 }
      return q

/-- Drop as many items as exceed the bound. -/
def trim (q : BoundedQueue) : StoreM BoundedQueue :=
  return { q with queue := ← dropOldest q.limit (q.size.toNat - q.limit.toNat) q.queue }

/-- Append an item, and drop old ones if the bound demands it. -/
def put (q : BoundedQueue) (data : Bytes) : StoreM BoundedQueue := do
  let queue ← q.queue.put data
  trim { q with queue }

def peek (q : BoundedQueue) : StoreM Bytes := q.queue.peek

def discard (q : BoundedQueue) : StoreM BoundedQueue :=
  return { q with queue := ← q.queue.discard }

def get (q : BoundedQueue) : StoreM (Bytes × BoundedQueue) := do
  let (data, queue) ← q.queue.get
  return (data, { q with queue })

end BoundedQueue

inductive Queue where
  | unbounded (queue : StoredQueue)
  | bounded (queue : BoundedQueue)

namespace Queue

/-- Open the queue that a store holds, bounded if a limit is given. -/
def openOn (store : Store) (limit : Option UInt64) : StoreM Queue := do
  let queue ← StoredQueue.openOn store
  match limit with
  | none => return .unbounded queue
  | some limit => return .bounded (← ofExcept (BoundedQueue.ofQueue queue limit))

def put (data : Bytes) : Queue → StoreM Queue
  | .unbounded q => return .unbounded (← q.put data)
  | .bounded q => return .bounded (← q.put data)

def peek : Queue → StoreM Bytes
  | .unbounded q => q.peek
  | .bounded q => q.peek

def discard : Queue → StoreM Queue
  | .unbounded q => return .unbounded (← q.discard)
  | .bounded q => return .bounded (← q.discard)

def get : Queue → StoreM (Bytes × Queue)
  | .unbounded q => do
    let (data, q) ← q.get
    return (data, .unbounded q)
  | .bounded q => do
    let (data, q) ← q.get
    return (data, .bounded q)

end Queue

end StoreGraph
