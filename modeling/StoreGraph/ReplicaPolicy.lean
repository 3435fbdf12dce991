import StoreGraph.Action

/-! # Policies of replication

How an operation on several copies becomes one operation: a write policy is given the write to each
copy, a read policy the read from each, both in the order of the copies, and decides which of them
to carry out and what the outcome is.
-/

namespace StoreGraph

/-- How values are written to, and read from, several copies. -/
structure ReplicaPolicy where
  /-- Turn the writes to all copies into one. -/
  write : List (StoreM Unit) → StoreM Unit
  /-- Turn the reads from all copies into one. -/
  read : List (StoreM Bytes) → StoreM Bytes

/-- The demand that at least some number of copies accept a write. -/
structure Quorum where
  needed : Nat
  needed_pos : 0 < needed
  deriving Repr, DecidableEq

namespace Quorum

/-- The demand for a given number of copies, which must not be zero. -/
def ofNat (needed : Nat) : Except Error Quorum :=
  if h : 0 < needed then .ok ⟨needed, h⟩
  else .error (.configuration "write threshold must be at least 1")

/-- The demand that each of so many copies accept a write. -/
def all (copies : Nat) : Except Error Quorum := ofNat copies

def any : Quorum := ⟨1, Nat.one_pos⟩

def text (demand : Quorum) : String := s!"AtLeast \x7b min: {demand.needed} \x7d"

/-- Write to every copy. The write succeeds if enough copies accept it; the copies that miss it are
    then reported and counted. -/
def write (demand : Quorum) (writes : List (StoreM Unit)) : StoreM Unit := do
  let failures ← gatherFailures (numbered "write to storage" writes)
  let written := writes.length - failures.length
  if written < demand.needed then
    throw <| (Error.join? failures).getD <|
      .backend s!"{written} of {writes.length} writes succeeded, {demand.needed} required"
  if !failures.isEmpty then
    StoreM.report (.writeDegraded written writes.length failures)
    StoreM.count fun c => { c with writeFailures := c.writeFailures + failures.length }

end Quorum

/-- The outcome of reads that have all failed: the key is absent if the last copy says so, and
    otherwise all failures are reported. -/
def allReadsFailed (failures : List Error) : Error :=
  if failures.getLast?.all Error.isNotFound then .notFound
  else (Error.join? failures).getD .notFound

/-- Read from one copy after the other until one has the value. The first argument holds the
    failures of the copies before. -/
def firstHitAfter (failures : List Error) : List (StoreM Bytes) → StoreM Bytes
  | [] => throw (allReadsFailed failures)
  | read :: rest => do
    match ← attempt read with
    | .ok value => return value
    | .error e => firstHitAfter (failures ++ [e]) rest

/-- Read from one copy after the other until one has the value. -/
def firstHit (reads : List (StoreM Bytes)) : StoreM Bytes := firstHitAfter [] reads

namespace ReplicaPolicy

/-- Enough copies have to accept a write, and the first copy that has the value answers a read. -/
def quorum (demand : Quorum) : ReplicaPolicy := ⟨demand.write, firstHit⟩

end ReplicaPolicy

end StoreGraph
