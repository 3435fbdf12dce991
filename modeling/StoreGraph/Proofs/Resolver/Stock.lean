import StoreGraph.Proofs.Frame
import StoreGraph.Proofs.Probe
import StoreGraph.Proofs.Resolver.Walk

/-! # What a bootstrap store answers for

A bootstrap store answers from what some cell holds, and building stores fills no cell. So there
are never more identifiers that it answers for than there were entries when resolving began
(`stocked_of_recalls`). This goes for all stores over memory cells and probes, sharded or redundant
in any way, whether or not some of their reads fail (`Store.InCells.recalls`).
-/

namespace StoreGraph

namespace World

/-- Some cell has an entry under the key. -/
def Holds (w : World) (key : Bytes) : Prop :=
  (∃ cell value, (w.entries cell).get? key = some value) ∨
    ∃ cell value, (w.probed cell).get? key = some value

/-- The keys of all cells, each as often as it occurs. -/
def heldKeys (w : World) : List Bytes :=
  (w.memories.cells.entries.flatMap fun cell => cell.2.entries.keys)
    ++ w.probes.cells.entries.flatMap fun cell => cell.2.entries.keys

/-- Nothing is held in the second world that is not held in the first one. -/
def Unfilled (w w' : World) : Prop := ∀ key, w'.Holds key → w.Holds key

variable {w w' : World} {key value : Bytes}

theorem length_heldKeys (w : World) : w.heldKeys.length = w.entryCount := by
  simp [heldKeys, entryCount, SortedMap.keys]

theorem mem_keys_of_get? {m : SortedMap Bytes Bytes} (found : m.get? key = some value) :
    key ∈ m.keys := by
  rw [SortedMap.mem_keys_iff, SortedMap.contains, found]
  rfl

theorem Holds.mem_heldKeys (held : w.Holds key) : key ∈ w.heldKeys := by
  obtain ⟨cell, value, found⟩ | ⟨cell, value, found⟩ := held
  · unfold World.entries Table.get at found
    cases stored : w.memories.cells.get? cell.index with
    | none =>
      rw [stored] at found
      cases found
    | some m =>
      rw [stored] at found
      exact List.mem_append_left _ (List.mem_flatMap.mpr
        ⟨_, SortedMap.mem_entries_iff _ |>.mpr stored, mem_keys_of_get? found⟩)
  · unfold World.probed Table.get at found
    cases stored : w.probes.cells.get? cell.index with
    | none =>
      rw [stored] at found
      cases found
    | some p =>
      rw [stored] at found
      exact List.mem_append_right _ (List.mem_flatMap.mpr
        ⟨_, SortedMap.mem_entries_iff _ |>.mpr stored, mem_keys_of_get? found⟩)

theorem frame_unfilled : Frame Unfilled :=
  ⟨fun _ _ held => held, fun first second key held => first key (second key held)⟩

theorem unfilled_same (memories : w'.memories = w.memories) (probes : w'.probes = w.probes) :
    w.Unfilled w' := by
  intro key held
  unfold Holds World.entries World.probed at held ⊢
  rwa [memories, probes] at held

theorem unfilled_withMemory (w : World) : w.Unfilled w.withMemory := by
  rintro key (⟨cell, value, found⟩ | probed)
  · unfold World.entries withMemory Table.get Table.alloc at found
    rw [SortedMap.get?_insert] at found
    split at found
    · cases found
    · exact .inl ⟨cell, value, found⟩
  · exact .inr probed

theorem unfilled_changeProbe (f : Probe → Probe) (same : ∀ p, (f p).entries = p.entries)
    (cell : Ref .probe) (w : World) : w.Unfilled (w.changeProbe cell f) := by
  rintro key (memory | ⟨cell', value, found⟩)
  · exact .inl memory
  · refine .inr ⟨cell', value, ?_⟩
    rw [← found, probed, probed, changeProbe, Table.modify, Table.get_set]
    split
    · rename_i here
      rw [same, here]
    · rfl

theorem unfilled_ruled (cell : Ref .probe) (rules : List FaultRule) (w : World) :
    w.Unfilled (w.ruled cell rules) := unfilled_changeProbe ({ · with rules }) (fun _ => rfl) cell w

end World

open World

/-- Reading answers only what some cell holds, and fills none. -/
structure Storage.Recalls (s : Storage) : Prop where
  unfilled : ∀ key, Moves Unfilled (s.get key)
  held : ∀ {key w value w'}, (s.get key).run w = .ok value w' → w.Holds key

/-- A store whose data is in memory cells and probes, and whose redundant stores read from one copy
    after the other. -/
inductive Store.InCells : Store → Prop where
  | memory {cell} : InCells (.memory cell)
  | nop : InCells .nop
  | probe {cell traits} : InCells (.probe cell traits)
  | sharded {pool stock} (shards : ∀ s ∈ stock, InCells s) : InCells (.sharded pool stock)
  | redundant {policy : ReplicaPolicy} {backs dedup offload} (reads : policy.read = firstHit)
      (copies : ∀ s ∈ backs, InCells s) : InCells (.redundant policy backs dedup offload)

namespace Storage

theorem recalls_memory (cell : Ref .memory) : (memory cell).Recalls := by
  constructor
  · intro key w
    rw [stateAfter, run_memory_get]
    cases (w.entries cell).get? key <;> exact frame_unfilled.refl w
  · intro key w value w' run
    rw [run_memory_get] at run
    cases found : (w.entries cell).get? key with
    | none =>
      rw [found] at run
      cases run
    | some stored => exact .inl ⟨cell, stored, found⟩

theorem recalls_nop : nop.Recalls := ⟨fun _ => .throw frame_unfilled _, nofun⟩

theorem unfilled_entered (cell : Ref .probe) (call : Call) (w : World) :
    w.Unfilled (w.entered cell call) :=
  frame_unfilled.trans (unfilled_changeProbe (·.record call) (fun _ => rfl) cell w)
    (unfilled_ruled cell _ _)

theorem recalls_probe (cell : Ref .probe) (traits : ProbeTraits) : (probe cell traits).Recalls := by
  constructor
  · intro key w
    have unfilled := unfilled_entered cell (.get key) w
    rw [stateAfter, run_probe_get]
    cases w.fault? cell (.get key) with
    | some e => exact unfilled
    | none =>
      cases (w.probed cell).get? key <;> exact unfilled
  · intro key w value w' run
    rw [run_probe_get] at run
    cases fault : w.fault? cell (.get key) with
    | some e =>
      rw [fault] at run
      cases run
    | none =>
      cases found : (w.probed cell).get? key with
      | none =>
        rw [fault, found] at run
        cases run
      | some stored => exact .inr ⟨cell, stored, found⟩

theorem unfilled_update (pool : ShardPool) (f : PoolState → PoolState) :
    Moves Unfilled (pool.update f) := fun _ => unfilled_same rfl rfl

theorem unfilled_create : Moves Unfilled Memory.create := unfilled_withMemory

theorem unfilled_report (event : Event) : Moves Unfilled (StoreM.report event) :=
  fun _ => unfilled_same rfl rfl

theorem unfilled_slot (pool : ShardPool) (stock index : Nat) :
    Moves Unfilled (pool.slot stock index) := by
  have frame := frame_unfilled
  unfold ShardPool.slot
  split
  · exact .pure frame _
  · refine .bind frame (frame.refl ·) fun state => ?_
    split
    · exact .pure frame _
    · refine .bind frame (frame.refl ·) fun state => ?_
      refine .bind frame (unfilled_update pool _) fun _ => ?_
      split
      · exact .throw frame _
      · have opened : ∀ slot : Slot, Moves Unfilled (do
            StoreM.report (.shardOpened index pool.count)
            pool.update fun s => { s with slots := s.slots.insert index slot }
            return slot) := fun slot =>
          .bind frame (unfilled_report _) fun _ => .bind frame (unfilled_update pool _) fun _ =>
            .pure frame slot
        dsimp only
        split
        · exact .bind frame (.bind frame unfilled_create fun _ => .pure frame _) opened
        · exact .bind frame (.pure frame _) opened

theorem recalls_sharded (pool : ShardPool) {stock : List Storage} (each : ∀ s ∈ stock, s.Recalls) :
    (sharded pool stock).Recalls := by
  have shard : ∀ slot : Slot, (slot.choose stock memory nop).Recalls := by
    intro slot
    cases slot with
    | fresh cell => exact recalls_memory cell
    | stocked position =>
      rw [Slot.choose]
      cases found : stock[position]? with
      | none => exact recalls_nop
      | some s => exact each s (List.mem_of_getElem? found)
  constructor
  · intro key
    exact .bind frame_unfilled (unfilled_slot pool _ _) fun slot => (shard slot).unfilled key
  · intro key w value w' run
    obtain ⟨slot, w₁, found, read⟩ := run_bind_eq_ok_iff.mp run
    exact (unfilled_slot pool _ _).of_ok found key ((shard slot).held read)

/-- Reads that are tried one after the other. -/
theorem recalls_firstHitAfter (key : Bytes) {copies : List Storage}
    (each : ∀ s ∈ copies, s.Recalls) (failures : List Error) :
    Moves Unfilled (firstHitAfter failures (copies.map (·.get key))) ∧
      ∀ {w value w'}, (firstHitAfter failures (copies.map (·.get key))).run w = .ok value w' →
        w.Holds key := by
  induction copies generalizing failures with
  | nil => exact ⟨.throw frame_unfilled _, nofun⟩
  | cons s rest ih =>
    have first := each s List.mem_cons_self
    have later := ih fun s listed => each s (List.mem_cons_of_mem _ listed)
    rw [List.map_cons]
    constructor
    · refine .bind frame_unfilled (first.unfilled key).attempt fun outcome => ?_
      cases outcome with
      | ok value => exact .pure frame_unfilled value
      | error e => exact (later (failures ++ [e])).1
    · intro w value w' run
      obtain ⟨outcome, w₁, tried, answered⟩ := run_bind_eq_ok_iff.mp run
      rw [run_attempt] at tried
      cases read : (s.get key).run w with
      | ok found w₁ => exact first.held read
      | error e w₂ =>
        rw [read] at tried
        cases tried
        exact (first.unfilled key).of_error read key ((later (failures ++ [e])).2 answered)

theorem recalls_redundant {policy : ReplicaPolicy} (reads : policy.read = firstHit)
    {backs : List Storage} (each : ∀ s ∈ backs, s.Recalls) (dedup : DedupScheme)
    (offload : Storage) : (redundant policy backs dedup offload).Recalls := by
  have get : ∀ key, (redundant policy backs dedup offload).get key =
      firstHitAfter [] (backs.map (·.get key)) := by
    intro key
    change policy.read (backs.map (·.get key)) = _
    rw [reads]
    rfl
  constructor
  · intro key
    rw [get]
    exact (recalls_firstHitAfter key each []).1
  · intro key w value w' run
    rw [get] at run
    exact (recalls_firstHitAfter key each []).2 run

end Storage

theorem Store.InCells.recalls {s : Store} (cells : s.InCells) : s.storage.Recalls := by
  induction cells with
  | memory => exact Storage.recalls_memory _
  | nop => exact Storage.recalls_nop
  | probe => exact Storage.recalls_probe _ _
  | sharded _ ih =>
    rw [Store.storage, Store.storages_eq_map]
    exact Storage.recalls_sharded _ (List.forall_mem_map.mpr ih)
  | redundant reads _ ih =>
    rw [Store.storage, Store.storages_eq_map]
    exact Storage.recalls_redundant reads (List.forall_mem_map.mpr ih) _ _

namespace Resolver

/-- While `keep` holds of the world, the bootstrap store answers for identifiers from a list only,
    and building stores does not end that. -/
structure Stocked (r : Resolver) (bootstrap : Store) (known : List Bytes)
    (keep : World → Prop) : Prop extends Outlives keep where
  read : ∀ {w id raw w'}, keep w → (bootstrap.get id).run w = .ok raw w' → id ∈ known ∧ keep w'
  created : ∀ {w url s w'}, keep w → (r.registry.create url).run w = .ok s w' → keep w'

/-- A store that answers from cells only is stocked with the keys of all cells, if creating backends
    fills none. -/
theorem stocked_of_recalls {r : Resolver} {bootstrap : Store} (recalls : bootstrap.storage.Recalls)
    (creates : ∀ url, Moves Unfilled (r.registry.create url)) (w : World) :
    r.Stocked bootstrap w.heldKeys w.Unfilled where
  read unfilled run :=
    ⟨(unfilled _ (recalls.held run)).mem_heldKeys,
      frame_unfilled.trans unfilled ((recalls.unfilled _).of_ok run)⟩
  created unfilled run := frame_unfilled.trans unfilled ((creates _).of_ok run)
  reporting _ unfilled := frame_unfilled.trans unfilled (unfilled_same rfl rfl)
  withMemory unfilled := frame_unfilled.trans unfilled (unfilled_withMemory _)
  withPool unfilled := frame_unfilled.trans unfilled (unfilled_same rfl rfl)
  withToken unfilled := frame_unfilled.trans unfilled (unfilled_same rfl rfl)

theorem unfilled_create_withDefaults {r : Resolver} (defaults : r.registry = .withDefaults)
    (url : String) : Moves Unfilled (r.registry.create url) := by
  have frame := frame_unfilled
  rw [defaults]
  unfold Registry.create
  split
  · exact .throw frame _
  · split
    · exact .throw frame _
    · rename_i factory found
      refine .bind frame (Storage.unfilled_report _) fun _ => ?_
      simp only [Registry.withDefaults, Registry.register, SortedMap.get?_insert] at found
      split at found
      · cases found
        exact .pure frame _
      · split at found
        · cases found
          exact .bind frame Storage.unfilled_create fun cell => .pure frame _
        · cases found

end Resolver

end StoreGraph
