import StoreGraph.Proofs.Graph.Shape
import StoreGraph.Proofs.Memory

/-! # Access to store graphs

Writing and deleting reach exactly the leaves to which the key belongs and never fail. Reading
answers what these leaves hold, provided that they agree.
-/

namespace StoreGraph

/-- The two worlds differ at most in what some cells hold under a key, and there these cells hold
    the given value, or nothing. -/
structure Wrote (touched : Ref .memory → Prop) (key : Bytes) (value : Option Bytes)
    (w w' : World) : Prop where
  written : ∀ cell, touched cell → (w'.entries cell).get? key = value
  kept : ∀ cell other, ¬ (touched cell ∧ other = key) →
    (w'.entries cell).get? other = (w.entries cell).get? other

namespace Wrote

variable {touched also : Ref .memory → Prop} {key : Bytes} {value : Option Bytes}
  {w w₁ w₂ : World}

theorem nothing (w : World) : Wrote (fun _ => False) key value w w :=
  ⟨nofun, fun _ _ _ => rfl⟩

theorem trans (first : Wrote touched key value w w₁) (second : Wrote also key value w₁ w₂) :
    Wrote (fun cell => touched cell ∨ also cell) key value w w₂ where
  written cell either := by
    by_cases again : also cell
    · exact second.written cell again
    · rw [second.kept cell key (by simp [again])]
      exact first.written cell (either.resolve_right again)
  kept cell other apart := by
    rw [second.kept cell other (fun h => apart ⟨.inr h.1, h.2⟩),
      first.kept cell other (fun h => apart ⟨.inl h.1, h.2⟩)]

theorem congr (h : Wrote touched key value w w₁) (same : ∀ cell, touched cell ↔ also cell) :
    Wrote also key value w w₁ := by
  have equal : touched = also := funext fun cell => propext (same cell)
  rwa [← equal]

theorem put (w : World) (cell : Ref .memory) (key value : Bytes) :
    Wrote (· = cell) key (some value) w (w.changeMemory cell (·.put key value)) where
  written cell' same := by
    rw [World.entries_put, if_pos same, SortedMap.get?_insert_self]
  kept cell' other apart := by
    rw [World.entries_put]
    by_cases same : cell' = cell
    · rw [if_pos same, same, SortedMap.get?_insert_of_ne]
      exact fun again => apart ⟨same, again⟩
    · rw [if_neg same]

theorem del (w : World) (cell : Ref .memory) (key : Bytes) :
    Wrote (· = cell) key none w (w.changeMemory cell (·.del key)) where
  written cell' same := by
    rw [World.entries_del, if_pos same, SortedMap.get?_erase_self]
  kept cell' other apart := by
    rw [World.entries_del]
    by_cases same : cell' = cell
    · rw [if_pos same, same, SortedMap.get?_erase_of_ne]
      exact fun again => apart ⟨same, again⟩
    · rw [if_neg same]

end Wrote

namespace Store

variable {key : Bytes} {value : Option Bytes} {s : Store} {stores stock backs : List Store}
  {w : World} {act : Store → StoreM Unit}

/-- The action succeeds and writes to the leaves of a store to which the key belongs. -/
def Writes (key : Bytes) (value : Option Bytes) (s : Store) (x : StoreM Unit) : Prop :=
  ∀ w, ∃ w', x.run w = .ok () w' ∧ Wrote (LeafFor key s) key value w w'

/-- Several writes, one after the other, leave no failures. -/
theorem run_gatherFailures (doing : String) (each : ∀ s ∈ stores, Writes key value s (act s))
    (w : World) :
    ∃ w', (gatherFailures (numbered doing (stores.map act))).run w = .ok [] w' ∧
      Wrote (fun cell => ∃ s ∈ stores, LeafFor key s cell) key value w w' := by
  unfold numbered
  generalize 0 = start
  induction stores generalizing w start with
  | nil => exact ⟨w, rfl, (Wrote.nothing w).congr (by simp)⟩
  | cons s rest ih =>
    obtain ⟨w₁, first, wrote⟩ := each s List.mem_cons_self w
    obtain ⟨w₂, further, wrote'⟩ := ih (fun s member => each s (List.mem_cons_of_mem _ member)) w₁
      (start + 1)
    refine ⟨w₂, ?_, (wrote.trans wrote').congr (by simp)⟩
    simp only [List.map_cons, List.zipIdx_cons, gatherFailures, EStateM.run_bind, run_attempt,
      first]
    exact further

theorem run_slot {pool : ShardPool} (ready : pool.opening = .ready) (stock index : Nat)
    (w : World) : (pool.slot stock index).run w = .ok (.stocked index) w := by
  simp only [ShardPool.slot, ready]
  rfl

theorem map_storages {α : Type} (act : Storage → α) (stores : List Store) :
    (storages stores).map act = stores.map fun s => act s.storage := by
  rw [storages_eq_map, List.map_map]
  rfl

theorem choose_stocked {index : Nat} (found : stock[index]? = some s) :
    Slot.choose (storages stock) Storage.memory Storage.nop (.stocked index) = s.storage := by
  rw [Slot.choose, storages_eq_map, List.getElem?_map, found]
  rfl

theorem leafFor_memory_iff {cell cell' : Ref .memory} :
    cell' = cell ↔ LeafFor key (.memory cell) cell' := by
  constructor
  · rintro rfl
    exact .memory
  · intro leaf
    cases leaf with
    | memory => rfl

theorem leafFor_sharded_iff {pool : ShardPool} (owns : stock[pool.owner key]? = some s)
    {cell : Ref .memory} : LeafFor key s cell ↔ LeafFor key (.sharded pool stock) cell := by
  constructor
  · exact fun leaf => .sharded owns leaf
  · intro leaf
    cases leaf with
    | sharded owns' leaf =>
      rw [owns] at owns'
      cases owns'
      exact leaf

theorem leafFor_redundant_iff {policy : ReplicaPolicy} {dedup : DedupScheme} {offload : Store}
    {cell : Ref .memory} : (∃ s ∈ backs, LeafFor key s cell) ↔
      LeafFor key (.redundant policy backs dedup offload) cell := by
  constructor
  · intro copy
    obtain ⟨s, member, leaf⟩ := copy
    exact .redundant member leaf
  · intro leaf
    cases leaf with
    | redundant member leaf => exact ⟨_, member, leaf⟩

/-- A write to the shard that owns the key. -/
theorem writes_sharded {pool : ShardPool} (ready : pool.opening = .ready)
    (owns : stock[pool.owner key]? = some s) (write : Storage → StoreM Unit)
    (shard : Writes key value s (write s.storage)) :
    Writes key value (.sharded pool stock) (do
      let slot ← pool.slot (storages stock).length (pool.owner key)
      write (slot.choose (storages stock) .memory .nop)) := by
  intro w
  obtain ⟨w', run, wrote⟩ := shard w
  refine ⟨w', ?_, wrote.congr fun cell => leafFor_sharded_iff owns⟩
  rw [EStateM.run_bind, run_slot ready]
  dsimp only
  rw [choose_stocked owns]
  exact run

theorem writes_put {s : Store} (wired : Wired s) (key value : Bytes) :
    Writes key (some value) s (s.put key value) := by
  induction wired with
  | memory cell =>
    exact fun w => ⟨_, Storage.run_memory_put cell key value w,
      (Wrote.put w cell key value).congr fun _ => leafFor_memory_iff⟩
  | sharded ready count some below ih =>
    obtain ⟨s, owns, member⟩ := owner_spec count some key
    exact writes_sharded ready owns (·.put key value) (ih s member)
  | @redundant demand backs dedup offload some few below ih =>
    intro w
    obtain ⟨w', run, wrote⟩ := run_gatherFailures "write to storage" ih w
    refine ⟨w', ?_, wrote.congr fun _ => leafFor_redundant_iff⟩
    have copies : (storages backs).map (fun back => back.put key value) =
        backs.map (fun back => back.put key value) := map_storages _ backs
    have enough : ¬ (backs.map fun back => back.put key value).length < demand.needed := by
      rw [List.length_map]
      omega
    simp only [put, storage, Storage.redundant, ReplicaPolicy.quorum, Quorum.write]
    rw [copies, EStateM.run_bind, run]
    simp only [List.length_nil, Nat.sub_zero, enough, if_false, List.isEmpty_nil, Bool.not_true,
      Bool.false_eq_true, EStateM.run_pure]

theorem writes_del {s : Store} (wired : Wired s) (key : Bytes) :
    Writes key none s (s.del key) := by
  induction wired with
  | memory cell =>
    exact fun w => ⟨_, Storage.run_memory_del cell key w,
      (Wrote.del w cell key).congr fun _ => leafFor_memory_iff⟩
  | sharded ready count some below ih =>
    obtain ⟨s, owns, member⟩ := owner_spec count some key
    exact writes_sharded ready owns (·.del key) (ih s member)
  | @redundant demand backs dedup offload some few below ih =>
    intro w
    obtain ⟨w', run, wrote⟩ := run_gatherFailures "delete on storage" ih w
    refine ⟨w', ?_, wrote.congr fun _ => leafFor_redundant_iff⟩
    have copies : (storages backs).map (fun back => back.del key) =
        backs.map (fun back => back.del key) := map_storages _ backs
    simp only [del, storage, Storage.redundant]
    rw [copies, EStateM.run_bind, run]
    rfl

/-- The outcome of a read: a value, or the failure that says that the key is absent. -/
def answer (w : World) : Option Bytes → EStateM.Result Error World Bytes
  | some value => .ok value w
  | none => .error .notFound w

/-- When no copy has the value, the key is absent. -/
theorem run_firstHitAfter_none {failures : List Error} {reads : List (StoreM Bytes)}
    (before : ∀ e ∈ failures, e.isNotFound = true)
    (absent : ∀ read ∈ reads, read.run w = .error .notFound w) :
    (firstHitAfter failures reads).run w = .error .notFound w := by
  induction reads generalizing failures with
  | nil =>
    have last : failures.getLast?.all Error.isNotFound = true := by
      rw [Option.all_eq_true]
      exact fun e member => before e (List.mem_of_getLast? member)
    simp only [firstHitAfter, allReadsFailed, last, if_true, run_throw_any]
  | cons read rest ih =>
    have first := absent read List.mem_cons_self
    simp only [firstHitAfter, EStateM.run_bind, run_attempt, first]
    refine ih ?_ fun read member => absent read (List.mem_cons_of_mem _ member)
    intro e member
    obtain member | member := List.mem_append.mp member
    · exact before e member
    · rw [List.mem_singleton.mp member]
      rfl

/-- The copies are read until one has the value; here each of them gives the same answer. -/
theorem run_firstHit {reads : List (StoreM Bytes)} (some : reads ≠ [])
    (same : ∀ read ∈ reads, read.run w = answer w value) :
    (firstHit reads).run w = answer w value := by
  cases value with
  | none => exact run_firstHitAfter_none nofun same
  | some value =>
    cases reads with
    | nil => exact absurd rfl some
    | cons read rest =>
      have first := same read List.mem_cons_self
      simp only [answer] at first
      simp only [firstHit, firstHitAfter, EStateM.run_bind, run_attempt, first]
      rfl

/-- A sharded store reads from the shard that owns the key. -/
theorem run_get_sharded {pool : ShardPool} (ready : pool.opening = .ready)
    (owns : stock[pool.owner key]? = some s) (w : World) :
    ((sharded pool stock).get key).run w = (s.get key).run w := by
  simp only [get, storage, Storage.sharded, EStateM.run_bind, run_slot ready]
  rw [choose_stocked owns]

/-- A redundant store reads from its copies, in turn. -/
theorem get_redundant (demand : Quorum) (backs : List Store) (dedup : DedupScheme)
    (offload : Store) (key : Bytes) :
    (redundant (.quorum demand) backs dedup offload).get key = firstHit (backs.map (·.get key)) :=
  congrArg firstHit (map_storages (·.get key) backs)

theorem run_get {s : Store} (wired : Wired s)
    (agree : ∀ cell, LeafFor key s cell → (w.entries cell).get? key = value) :
    (s.get key).run w = answer w value := by
  induction wired with
  | memory cell =>
    have held := agree cell .memory
    rw [get, storage, Storage.run_memory_get, held]
    cases value <;> rfl
  | @sharded pool stock ready count some below ih =>
    obtain ⟨s, owns, member⟩ := owner_spec count some key
    rw [run_get_sharded ready owns]
    exact ih s member fun cell leaf => agree cell (.sharded owns leaf)
  | @redundant demand backs dedup offload some few below ih =>
    rw [get_redundant]
    refine run_firstHit (by simpa using some) ?_
    intro read member
    obtain ⟨s, listed, rfl⟩ := List.mem_map.mp member
    exact ih s listed fun cell leaf => agree cell (.redundant listed leaf)

end Store

end StoreGraph
