import StoreGraph.Proofs.Creation

/-! # The cells of a sharded store

A store that is sharded over in-memory stores keeps its data in cells. Either the cells are given,
one for each shard, or every shard gets a cell of its own when it is opened. The number of a shard
decides where it is found (`Partition.cell?`), and no two shards are found in one place (`Sound`).
Opening shards, or failing to, moves no shard and changes no data (`Spares`).
-/

namespace StoreGraph

/-- A store that is sharded over in-memory stores: its pool, and the cells that were given to it. -/
structure Partition where
  pool : ShardPool
  given : List (Ref .memory)
  positive : 0 < pool.count
  distinct : given.Nodup
  /-- Without given cells, every shard gets its own on demand. -/
  fits : given.length = pool.count ∨ given = [] ∧ ∃ fault, pool.opening = .onDemand fault

namespace World

/-- The world in which the state of a shard pool is changed. -/
def changePool (w : World) (pool : Ref .pool) (f : PoolState → PoolState) : World :=
  { w with pools := w.pools.modify pool f }

@[simp] theorem pool_changePool (w : World) (pool : Ref .pool) (f : PoolState → PoolState) :
    (w.changePool pool f).pools.get pool = f (w.pools.get pool) := by
  simp [changePool, Table.modify]

/-- A new cell is empty, and the others stay as they are. -/
theorem entries_withMemory_new (w : World) : w.withMemory.entries ⟨w.memories.next⟩ = .empty :=
  congrArg Memory.entries (w.memories.get_alloc_self {})

theorem entries_withMemory_old (w : World) {cell : Ref .memory}
    (old : cell.index < w.memories.next) : w.withMemory.entries cell = w.entries cell :=
  congrArg Memory.entries (w.memories.get_alloc_of_lt old {})

end World

namespace Partition

variable (p : Partition) {w w₁ w₂ w₃ : World} {index : Nat}

/-- The live store. -/
def store : Store := .sharded p.pool (p.given.map .memory)

/-- The shards that were opened, with where they are found. -/
def slots (w : World) : SortedMap Nat Slot := (w.pools.get p.pool.state).slots

/-- The cell of a shard, unless the shard has still to get one. -/
def cell? (w : World) (index : Nat) : Option (Ref .memory) :=
  if p.given = [] then
    match (p.slots w).get? index with
    | some (.fresh cell) => some cell
    | _ => none
  else p.given[index]?

/-- The entries of a shard. -/
def contents (w : World) (index : Nat) : SortedMap Bytes Bytes :=
  match p.cell? w index with
  | some cell => w.entries cell
  | none => .empty

/-- Shards that were opened are where they belong, and no two shards share a cell. -/
structure Sound (w : World) : Prop where
  opened : ∀ index slot, (p.slots w).get? index = some slot →
    if p.given = [] then ∃ cell, slot = .fresh cell else slot = .stocked index
  apart : ∀ i j cell, p.cell? w i = some cell → p.cell? w j = some cell → i = j
  /-- A cell that will be new has not been used. -/
  old : p.given = [] → ∀ index cell, p.cell? w index = some cell → cell.index < w.memories.next

/-- No shard is moved, and no data are changed. -/
structure Spares (w w' : World) : Prop where
  sound : p.Sound w → p.Sound w'
  stays : ∀ index cell, p.cell? w index = some cell → p.cell? w' index = some cell
  contents : p.Sound w → ∀ index, p.contents w' index = p.contents w index

namespace Spares

variable {p}

theorem refl (w : World) : p.Spares w w := ⟨id, fun _ _ => id, fun _ _ => rfl⟩

theorem trans (first : p.Spares w₁ w₂) (second : p.Spares w₂ w₃) : p.Spares w₁ w₃ where
  sound sound := second.sound (first.sound sound)
  stays index cell there := second.stays index cell (first.stays index cell there)
  contents sound index :=
    (second.contents (first.sound sound) index).trans (first.contents sound index)

end Spares

variable {p}

theorem cell?_congr (slots : p.slots w₁ = p.slots w₂) : p.cell? w₁ = p.cell? w₂ := by
  funext index
  rw [cell?, cell?, slots]

/-- What leaves the slots and the cells alone spares the store. -/
theorem spares_of_same (slots : p.slots w₂ = p.slots w₁) (memories : w₂.memories = w₁.memories) :
    p.Spares w₁ w₂ := by
  have cells : p.cell? w₂ = p.cell? w₁ := cell?_congr slots
  constructor
  · rintro ⟨opened, apart, old⟩
    refine ⟨?_, ?_, ?_⟩
    · rw [slots]
      exact opened
    · rw [cells]
      exact apart
    · rw [cells, memories]
      exact old
  · intro index cell there
    rw [cells]
    exact there
  · intro _ index
    simp only [contents, cells, World.entries, memories]

/-- If the cells are given, then it makes no difference which shards have been opened. -/
theorem spares_of_given (given : p.given ≠ [])
    (slots : p.slots w₂ = (p.slots w₁).insert index (.stocked index))
    (memories : w₂.memories = w₁.memories) : p.Spares w₁ w₂ := by
  have cells : p.cell? w₂ = p.cell? w₁ := by
    funext index
    simp only [cell?, if_neg given]
  constructor
  · rintro ⟨opened, apart, old⟩
    refine ⟨?_, by rw [cells]; exact apart, fun none => absurd none given⟩
    intro other slot found
    rw [slots, SortedMap.get?_insert] at found
    split at found
    · rename_i same
      rw [if_neg given, same]
      exact (Option.some.inj found).symm
    · exact opened other slot found
  · intro index cell there
    rw [cells]
    exact there
  · intro _ index
    simp only [contents, cells, World.entries, memories]

/-- A shard that gets a new cell is empty, as it was before. -/
theorem spares_of_fresh (own : p.given = []) (unopened : (p.slots w₁).get? index = none)
    (slots : p.slots w₂ = (p.slots w₁).insert index (.fresh ⟨w₁.memories.next⟩))
    (memories : w₂.memories = w₁.withMemory.memories) : p.Spares w₁ w₂ := by
  have here : p.cell? w₂ index = some ⟨w₁.memories.next⟩ := by
    rw [cell?, if_pos own, slots, SortedMap.get?_insert_self]
  have before : p.cell? w₁ index = none := by
    rw [cell?, if_pos own, unopened]
  have others : ∀ i ≠ index, p.cell? w₂ i = p.cell? w₁ i := by
    intro i other
    rw [cell?, cell?, if_pos own, if_pos own, slots, SortedMap.get?_insert_of_ne _ other]
  have entries : ∀ cell, w₂.entries cell = w₁.withMemory.entries cell := by
    intro cell
    rw [World.entries, World.entries, memories]
  have next : w₂.memories.next = w₁.memories.next + 1 := by
    rw [memories]
    rfl
  constructor
  · rintro ⟨opened, apart, old⟩
    have unused : ∀ i cell, p.cell? w₁ i = some cell → cell ≠ ⟨w₁.memories.next⟩ := by
      intro i cell there same
      have less := old own i cell there
      rw [same] at less
      exact Nat.lt_irrefl _ less
    refine ⟨?_, ?_, ?_⟩
    · intro i slot found
      rw [slots, SortedMap.get?_insert] at found
      split at found
      · rw [if_pos own]
        exact ⟨_, (Option.some.inj found).symm⟩
      · exact opened i slot found
    · intro i j cell first second
      by_cases i_new : i = index <;> by_cases j_new : j = index
      · rw [i_new, j_new]
      · rw [i_new, here] at first
        rw [others j j_new] at second
        exact absurd (Option.some.inj first).symm (unused j cell second)
      · rw [j_new, here] at second
        rw [others i i_new] at first
        exact absurd (Option.some.inj second).symm (unused i cell first)
      · rw [others i i_new] at first
        rw [others j j_new] at second
        exact apart i j cell first second
    · intro _ i cell there
      rw [next]
      by_cases new : i = index
      · rw [new, here] at there
        rw [← Option.some.inj there]
        exact Nat.lt_succ_self _
      · rw [others i new] at there
        exact Nat.lt_succ_of_lt (old own i cell there)
  · intro i cell there
    have other : i ≠ index := by
      rintro rfl
      rw [before] at there
      cases there
    rw [others i other]
    exact there
  · intro sound i
    by_cases new : i = index
    · simp only [contents, new, here, before, entries, World.entries_withMemory_new]
    · simp only [contents, others i new]
      cases there : p.cell? w₁ i with
      | none => rfl
      | some cell =>
        dsimp only
        rw [entries, World.entries_withMemory_old w₁ (sound.old own i cell there)]

/-! ## Opening shards -/

/-- The failure is that of an attempt to open the shard. -/
def OpenError (p : Partition) (index : Nat) (e : Error) : Prop :=
  ∃ fault attempt cause, p.pool.opening = .onDemand fault ∧ fault index attempt = some cause ∧
    e = .context s!"open shard {index}" cause

/-- The shard is found, or opening it fails. -/
inductive Finds (p : Partition) (w : World) (index : Nat) : Prop where
  | found {slot cell w'} (run : (p.pool.slot p.given.length index).run w = .ok slot w')
      (spares : p.Spares w w') (there : p.cell? w' index = some cell)
      (chosen : slot.choose (Store.storages (p.given.map .memory)) Storage.memory Storage.nop =
        Storage.memory cell)
  | refused {e w'} (run : (p.pool.slot p.given.length index).run w = .error e w')
      (spares : p.Spares w w') (cause : p.OpenError index e)

theorem choose_given (inside : index < p.given.length) :
    Slot.choose (Store.storages (p.given.map .memory)) Storage.memory Storage.nop (.stocked index) =
      Storage.memory p.given[index] := by
  rw [Slot.choose, Store.storages_eq_map, List.map_map, List.getElem?_map,
    List.getElem?_eq_getElem inside]
  rfl

theorem cell?_given (inside : index < p.given.length) : p.cell? w index = some p.given[index] := by
  have given : p.given ≠ [] := List.length_pos_iff.mp (Nat.zero_lt_of_lt inside)
  rw [cell?, if_neg given, List.getElem?_eq_getElem inside]

theorem length_given (given : p.given ≠ []) : p.given.length = p.pool.count := by
  obtain fits | ⟨none, -⟩ := p.fits
  · exact fits
  · exact absurd none given

/-- An attempt to open a shard is remembered, and it may fail. -/
theorem run_openShard (pool : ShardPool) (stock index : Nat) (fault : Nat → Nat → Option Error)
    (w : World) :
    let tried := w.changePool pool.state fun s => { s with attempts := s.attempts ++ [index] }
    let opened (slot : Slot) (s : PoolState) := { s with slots := s.slots.insert index slot }
    (pool.openShard stock index fault).run w =
      match fault index ((w.pools.get pool.state).attempts.count index) with
      | some e => .error (.context s!"open shard {index}" e) tried
      | none =>
        if stock = 0 then
          .ok (.fresh ⟨w.memories.next⟩)
            ((tried.withMemory.reporting (.shardOpened index pool.count)).changePool pool.state
              (opened (.fresh ⟨w.memories.next⟩)))
        else
          .ok (.stocked (index % stock))
            ((tried.reporting (.shardOpened index pool.count)).changePool pool.state
              (opened (.stocked (index % stock)))) := by
  dsimp only
  simp only [ShardPool.openShard, ShardPool.read, ShardPool.update, EStateM.run_bind,
    EStateM.run_get, EStateM.run_pure, EStateM.run_modify]
  cases fault index ((w.pools.get pool.state).attempts.count index) with
  | some e => rfl
  | none =>
    by_cases own : stock = 0
    · simp only [own, if_true]
      rfl
    · simp only [own, if_false]
      rfl

theorem slots_changePool (w : World) (f : PoolState → PoolState) :
    p.slots (w.changePool p.pool.state f) = (f (w.pools.get p.pool.state)).slots := by
  rw [slots, World.pool_changePool]

theorem finds_openShard (fault : Nat → Nat → Option Error)
    (demand : p.pool.opening = .onDemand fault)
    (inside : index < p.pool.count) (unopened : (p.slots w).get? index = none) :
    Finds p w index := by
  have run : (p.pool.slot p.given.length index).run w =
      (p.pool.openShard p.given.length index fault).run w := by
    simp only [ShardPool.slot, demand, ShardPool.read, EStateM.run_bind, EStateM.run_get,
      EStateM.run_pure]
    rw [slots] at unopened
    rw [unopened]
  rw [run_openShard] at run
  cases failed : fault index ((w.pools.get p.pool.state).attempts.count index) with
  | some e =>
    rw [failed] at run
    refine .refused run (spares_of_same ?_ rfl) ⟨fault, _, e, demand, failed, rfl⟩
    rw [slots_changePool]
    rfl
  | none =>
    rw [failed] at run
    -- Noting the attempt has changed no slot, so opening adds one to those before it.
    have tried : ((w.changePool p.pool.state fun s =>
        { s with attempts := s.attempts ++ [index] }).pools.get p.pool.state).slots =
          p.slots w := by
      rw [World.pool_changePool]
      rfl
    by_cases own : p.given = []
    · have none : p.given.length = 0 := List.length_eq_zero_iff.mpr own
      simp only [none, if_true] at run
      rw [← none] at run
      refine .found run (spares_of_fresh own unopened ?_ rfl) ?_ rfl
      · rw [slots_changePool, ← tried]
        rfl
      · rw [cell?, if_pos own, slots_changePool]
        simp only [SortedMap.get?_insert_self]
    · have length := length_given own
      have within : index < p.given.length := by omega
      have some : p.given.length ≠ 0 := by omega
      simp only [some, if_false, Nat.mod_eq_of_lt within] at run
      have slots : p.slots (((w.changePool p.pool.state fun s =>
          { s with attempts := s.attempts ++ [index] }).reporting
            (.shardOpened index p.pool.count)).changePool p.pool.state fun s =>
              { s with slots := s.slots.insert index (.stocked index) }) =
          (p.slots w).insert index (.stocked index) := by
        rw [slots_changePool, ← tried]
        rfl
      exact .found run (spares_of_given own slots rfl) (cell?_given within) (choose_given within)

/-- Every shard is found, unless opening it fails. -/
theorem finds (sound : p.Sound w) (inside : index < p.pool.count) : Finds p w index := by
  cases opening : p.pool.opening with
  | ready =>
    have within : index < p.given.length := by
      obtain fits | ⟨-, fault, demand⟩ := p.fits
      · omega
      · rw [opening] at demand
        cases demand
    have run : (p.pool.slot p.given.length index).run w = .ok (.stocked index) w := by
      simp only [ShardPool.slot, opening]
      rfl
    exact .found run (.refl w) (cell?_given within) (choose_given within)
  | onDemand fault =>
    cases held : (p.slots w).get? index with
    | none => exact finds_openShard fault opening inside held
    | some slot =>
      have run : (p.pool.slot p.given.length index).run w = .ok slot w := by
        simp only [ShardPool.slot, opening, ShardPool.read, EStateM.run_bind, EStateM.run_get,
          EStateM.run_pure]
        rw [slots] at held
        rw [held]
        rfl
      have placed := sound.opened index slot held
      by_cases own : p.given = []
      · rw [if_pos own] at placed
        obtain ⟨cell, rfl⟩ := placed
        refine .found run (.refl w) ?_ rfl
        rw [cell?, if_pos own, held]
      · rw [if_neg own] at placed
        subst placed
        have length := length_given own
        have within : index < p.given.length := by omega
        exact .found run (.refl w) (cell?_given within) (choose_given within)

end Partition

end StoreGraph
