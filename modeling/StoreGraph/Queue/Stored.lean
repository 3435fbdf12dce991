import StoreGraph.Store
import StoreGraph.Word

/-! # Queues over a store

A first-in, first-out queue kept in a store, so that it goes on where it stopped when it is opened
again. The items are stored under consecutive sequence numbers, and two further keys hold the
number of the oldest item and the number used last. An item is written before the number used last
advances, so an interrupted write leaves at most an entry that the next write replaces.
-/

namespace StoreGraph

/-- The range of sequence numbers in use. -/
structure SequenceRange where
  /-- The number of the oldest item. -/
  oldest : UInt64
  /-- The number used last; zero if none was used. -/
  latest : UInt64
  deriving Repr, DecidableEq

namespace SequenceRange

def isEmpty (r : SequenceRange) : Bool := r.latest == 0 || decide (r.latest < r.oldest)

/-- The number of items in the range. Both steps stop at the ends of the number range. -/
def size (r : SequenceRange) : UInt64 :=
  let after := if r.latest = 0xFFFFFFFFFFFFFFFF then r.latest else r.latest + 1
  if after < r.oldest then 0 else after - r.oldest

end SequenceRange

/-- A queue: the store that holds it and the range of numbers in use. -/
structure StoredQueue where
  store : Store
  range : SequenceRange

namespace StoredQueue

/-- The key under which the number of the oldest item is stored. -/
def oldestKey : Bytes := Bytes.ofText "oldest"

/-- The key under which the number used last is stored. -/
def latestKey : Bytes := Bytes.ofText "latest"

/-- The number stored under a key; zero if there is none. -/
def readSequence (store : Store) (key : Bytes) : StoreM UInt64 := do
  match ← store.find? key with
  | none => return 0
  | some raw =>
    match Word.ofBytes? raw with
    | some sequence => return sequence
    | none =>
      throw (.corrupted s!"sequence '{key.lossyText}' has {raw.length} bytes, 8 required")

/-- Open the queue that a store holds. -/
def openOn (store : Store) : StoreM StoredQueue := do
  let oldest ← withContext "load oldest sequence" (readSequence store oldestKey)
  let latest ← withContext "load latest sequence" (readSequence store latestKey)
  let oldest := max oldest 1
  if latest < oldest ∧ 1 < oldest - latest then
    throw (.corrupted s!"oldest sequence {oldest} is ahead of latest sequence {latest}")
  StoreM.report (.queueOpened oldest latest)
  return ⟨store, ⟨oldest, latest⟩⟩

def size (q : StoredQueue) : UInt64 := q.range.size

def isEmpty (q : StoredQueue) : Bool := q.range.isEmpty

/-- Append an item. The queue is unchanged if this fails. -/
def put (q : StoredQueue) (data : Bytes) : StoreM StoredQueue := do
  if q.range.latest = 0xFFFFFFFFFFFFFFFF then
    throw (.backend "queue sequence space exhausted")
  let next := q.range.latest + 1
  q.store.put (Word.toBytes next) data
  q.store.put latestKey (Word.toBytes next)
  return { q with range := { q.range with latest := next } }

/-- The oldest item, which stays in the queue. -/
def peek (q : StoredQueue) : StoreM Bytes := do
  if q.isEmpty then throw .notFound
  q.store.get (Word.toBytes q.range.oldest)

/-- Drop the oldest item. The queue is unchanged if this fails. -/
def discard (q : StoredQueue) : StoreM StoredQueue := do
  if q.isEmpty then throw .notFound
  q.store.del (Word.toBytes q.range.oldest)
  let next := q.range.oldest + 1
  q.store.put oldestKey (Word.toBytes next)
  return { q with range := { q.range with oldest := next } }

/-- Take the oldest item out. The queue is unchanged if this fails. -/
def get (q : StoredQueue) : StoreM (Bytes × StoredQueue) := do
  let data ← q.peek
  return (data, ← q.discard)

end StoredQueue

/-- A walk over the items that were in a queue when it began. -/
structure QueueWalk where
  store : Store
  /-- The number of the item to come; zero when the walk has ended. -/
  next : UInt64
  /-- The number of the last item. -/
  last : UInt64

namespace QueueWalk

/-- A walk over the items that are in a queue now. -/
def start (q : StoredQueue) : QueueWalk := ⟨q.store, q.range.oldest, q.range.latest⟩

/-- The next item with its number, and the walk behind it. The walk ends with the last item, at a
    missing item, and after a failure of the store, which is reported once. -/
def step (it : QueueWalk) : StoreM (Option (Except Error (UInt64 × Bytes)) × QueueWalk) := do
  if it.next = 0 ∨ it.last < it.next then return (none, it)
  let ended := { it with next := 0 }
  match ← attempt (it.store.get (Word.toBytes it.next)) with
  | .ok data => return (some (.ok (it.next, data)), { it with next := it.next + 1 })
  | .error e => return (if e.isNotFound then none else some (.error e), ended)

end QueueWalk

end StoreGraph
