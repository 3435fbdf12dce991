import StoreGraph.Proofs.Memory
import StoreGraph.Dedup

/-! # New stores, run

What the actions that make new stores answer, and which cells they take.
-/

namespace StoreGraph

namespace World

def reporting (w : World) (event : Event) : World := { w with events := w.events ++ [event] }

def withMemory (w : World) : World := { w with memories := (w.memories.alloc {}).2 }

def withPool (w : World) : World := { w with pools := (w.pools.alloc {}).2 }

/-- The world in which a token was drawn and put into a new cell. -/
def withToken (w : World) : World :=
  { w with drawn := w.drawn + 1, tokens := (w.tokens.alloc (w.randomness w.drawn)).2 }

end World

namespace Store

variable (w : World)

theorem run_newMemory : newMemory.run w = .ok (memory ⟨w.memories.next⟩) w.withMemory := rfl

theorem run_newArray {hash : Bytes → UInt32} {shards : List Store} (some : shards ≠ [])
    (few : shards.length < UInt32.size) :
    (newArray hash shards).run w =
      .ok (sharded ⟨⟨w.pools.next⟩, hash, shards.length, .ready⟩ shards)
        (w.reporting (.arrayPoolCreating shards.length)).withPool := by
  have nonempty : shards.isEmpty = false := by simpa using some
  have fits : ¬ UInt32.size ≤ shards.length := by omega
  simp only [newArray, nonempty, fits, Bool.false_eq_true, if_false]
  rfl

theorem run_newArray_of_not (hash : Bytes → UInt32) {shards : List Store}
    (wrong : ¬ (shards ≠ [] ∧ shards.length < UInt32.size)) :
    ∃ detail, (newArray hash shards).run w = .error (.configuration detail) w := by
  cases shards with
  | nil => exact ⟨_, rfl⟩
  | cons shard rest =>
    have many : UInt32.size ≤ (shard :: rest).length := by
      simp only [ne_eq, reduceCtorEq, not_false_eq_true, true_and] at wrong
      omega
    refine ⟨s!"too many shards: {(shard :: rest).length}", ?_⟩
    simp only [newArray, List.isEmpty_cons, many, Bool.false_eq_true, if_false, if_true]
    rfl

theorem run_newHashed {count : Nat} (some : count ≠ 0) (hash : Bytes → UInt32)
    (fault : Nat → Nat → Option Error) (stock : List Store) :
    (newHashed count hash fault stock).run w =
      .ok (sharded ⟨⟨w.pools.next⟩, hash, count, .onDemand fault⟩ stock)
        (w.reporting (.hashedPoolCreating count)).withPool := by
  simp only [newHashed, some, if_false]
  rfl

theorem run_newRedundant {policy : ReplicaPolicy} {backs : List Store} {dedup : DedupScheme}
    {offload : Store} (some : backs ≠ []) :
    (newRedundant policy backs dedup offload).run w =
      .ok (redundant policy backs dedup offload)
        (w.reporting (.redundantCreating backs.length)) := by
  have nonempty : backs.isEmpty = false := by simpa using some
  simp only [newRedundant, nonempty, Bool.false_eq_true, if_false]
  rfl

end Store

theorem Dedup.run_newOffloaded (store : Store) (w : World) :
    (newOffloaded store).run w = .ok ⟨.offloaded ⟨w.tokens.next⟩, store⟩ w.withToken := rfl

end StoreGraph
