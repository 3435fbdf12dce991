import StoreGraph.Store

/-! # The shape of store graphs

A live store seen as a graph over memory cells: its leaves, the leaves to which a key belongs, and
the cells in which its redundant stores remember keys. Which leaves a key belongs to depends on the
key alone, since routing does.
-/

namespace StoreGraph.Store

/-- The stores that resolving gives, over memory cells: shards are ready and at least one, and no
    more copies have to accept a write than there are. -/
inductive Wired : Store → Prop where
  | memory (cell) : Wired (.memory cell)
  | sharded {pool stock} (ready : pool.opening = .ready) (count : pool.count = stock.length)
      (some : stock ≠ []) (below : ∀ s ∈ stock, Wired s) : Wired (.sharded pool stock)
  | redundant {demand : Quorum} {backs dedup offload} (some : backs ≠ [])
      (few : demand.needed ≤ backs.length) (below : ∀ s ∈ backs, Wired s) :
      Wired (.redundant (.quorum demand) backs dedup offload)

/-- The memory cells that hold what is put into a store. -/
inductive Leaf : Store → Ref .memory → Prop where
  | memory {cell} : Leaf (.memory cell) cell
  | sharded {pool stock s cell} (member : s ∈ stock) (leaf : Leaf s cell) :
      Leaf (.sharded pool stock) cell
  | redundant {policy backs dedup offload s cell} (member : s ∈ backs) (leaf : Leaf s cell) :
      Leaf (.redundant policy backs dedup offload) cell

/-- The leaves to which a key belongs. -/
inductive LeafFor (key : Bytes) : Store → Ref .memory → Prop where
  | memory {cell} : LeafFor key (.memory cell) cell
  | sharded {pool : ShardPool} {stock s cell} (owns : stock[pool.owner key]? = some s)
      (leaf : LeafFor key s cell) : LeafFor key (.sharded pool stock) cell
  | redundant {policy backs dedup offload s cell} (member : s ∈ backs)
      (leaf : LeafFor key s cell) : LeafFor key (.redundant policy backs dedup offload) cell

/-- The cells in which a store marks the keys that it has shown. -/
inductive Marks : Store → Ref .memory → Prop where
  | sharded {pool stock s cell} (member : s ∈ stock) (marks : Marks s cell) :
      Marks (.sharded pool stock) cell
  | copy {policy backs dedup offload s cell} (member : s ∈ backs) (marks : Marks s cell) :
      Marks (.redundant policy backs dedup offload) cell
  | own {policy backs dedup cell} : Marks (.redundant policy backs dedup (.memory cell)) cell

/-- The cells that hold the tokens of a store. -/
inductive Tokens : Store → Ref .token → Prop where
  | sharded {pool stock s token} (member : s ∈ stock) (tokens : Tokens s token) :
      Tokens (.sharded pool stock) token
  | copy {policy backs dedup offload s token} (member : s ∈ backs) (tokens : Tokens s token) :
      Tokens (.redundant policy backs dedup offload) token
  | own {policy backs token offload} :
      Tokens (.redundant policy backs (.offloaded token) offload) token

/-- Every redundant store marks keys in a memory cell, with a token, that none of its copies use. -/
inductive Private : Store → Prop where
  | memory (cell) : Private (.memory cell)
  | sharded {pool stock} (below : ∀ s ∈ stock, Private s) : Private (.sharded pool stock)
  | redundant {policy backs token cell} (below : ∀ s ∈ backs, Private s)
      (leaf : ∀ s ∈ backs, ¬ Leaf s cell) (marks : ∀ s ∈ backs, ¬ Marks s cell)
      (tokens : ∀ s ∈ backs, ¬ Tokens s token) :
      Private (.redundant policy backs (.offloaded token) (.memory cell))

def isRedundant : Store → Bool
  | .redundant .. => true
  | _ => false

theorem LeafFor.leaf {key : Bytes} {s : Store} {cell : Ref .memory} (h : LeafFor key s cell) :
    Leaf s cell := by
  induction h with
  | memory => exact .memory
  | sharded owns _ ih => exact .sharded (List.mem_of_getElem? owns) ih
  | redundant member _ ih => exact .redundant member ih

/-- The shard that owns a key. -/
theorem owner_spec {pool : ShardPool} {stock : List Store} (count : pool.count = stock.length)
    (some : stock ≠ []) (key : Bytes) : ∃ s, stock[pool.owner key]? = .some s ∧ s ∈ stock := by
  have positive : 0 < stock.length := List.length_pos_iff.mpr some
  have within : pool.owner key < stock.length := by
    rw [ShardPool.owner, count]
    exact Nat.mod_lt _ positive
  exact ⟨stock[pool.owner key], List.getElem?_eq_getElem within, List.getElem_mem within⟩

/-- Every key belongs to some leaf. -/
theorem Wired.exists_leafFor {s : Store} (wired : Wired s) (key : Bytes) :
    ∃ cell, LeafFor key s cell := by
  induction wired with
  | memory cell => exact ⟨cell, .memory⟩
  | sharded ready count some below ih =>
    obtain ⟨s, owns, member⟩ := owner_spec count some key
    obtain ⟨cell, leaf⟩ := ih s member
    exact ⟨cell, .sharded owns leaf⟩
  | redundant some few below ih =>
    obtain ⟨s, member⟩ := List.exists_mem_of_ne_nil _ some
    obtain ⟨cell, leaf⟩ := ih s member
    exact ⟨cell, .redundant member leaf⟩

end StoreGraph.Store
