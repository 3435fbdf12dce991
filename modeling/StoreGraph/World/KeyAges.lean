import StoreGraph.Bytes
import StoreGraph.World.Table

/-! # The ages of keys

The order in which a set of keys was saved. Every key carries the sequence number of its last save;
the keys are held both by age and by key, so that the oldest one and the age of any one are at hand.
-/

namespace StoreGraph

/-- The ages of a set of keys. -/
structure KeyAges where
  /-- Sequence numbers with their keys, the oldest first. -/
  byAge : SortedMap (UInt64 × Bytes) Unit := .empty
  sequenceOf : SortedMap Bytes UInt64 := .empty
  /-- The number that the next save takes. -/
  next : UInt64 := 0

namespace KeyAges

instance : Inhabited KeyAges := ⟨{}⟩

def size (ages : KeyAges) : Nat := ages.sequenceOf.size

/-- Give a key a sequence number, in place of the one it had. -/
def insert (ages : KeyAges) (key : Bytes) (sequence : UInt64) : KeyAges :=
  let byAge := match ages.sequenceOf.get? key with
    | some previous => ages.byAge.erase (previous, key)
    | none => ages.byAge
  { ages with
    byAge := byAge.insert (sequence, key) ()
    sequenceOf := ages.sequenceOf.insert key sequence }

/-- The oldest key with its sequence number. -/
def oldest? (ages : KeyAges) : Option (UInt64 × Bytes) := ages.byAge.first?.map (·.1)

/-- Take an aged key out. -/
def remove (ages : KeyAges) (aged : UInt64 × Bytes) : KeyAges :=
  { ages with
    byAge := ages.byAge.erase aged
    sequenceOf := ages.sequenceOf.erase aged.2 }

end KeyAges

end StoreGraph
