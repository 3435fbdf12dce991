import Mathlib.Data.List.Nodup
import Mathlib.Logic.Function.Basic
import StoreGraph.Proofs.Enumeration
import StoreGraph.Proofs.Shards.Cells

/-! # Sharded stores as maps

A sharded store is one key/value map, and each key of it lies in the shard that its hash names
(`Holds`). Every operation is answered as by the map, except that it may fail to open a shard, which
changes no data; an enumeration that succeeds shows every live key once (`sharded_store_is_map`).
-/

namespace StoreGraph

namespace Partition

variable {p : Partition} {w w' : World} {m : Bytes → Option Bytes} {index : Nat}
  {cell : Ref .memory} {key : Bytes}

/-- The shards hold a map: each key lies in the shard that owns it, and in no other. -/
structure Holds (p : Partition) (w : World) (m : Bytes → Option Bytes) : Prop where
  sound : p.Sound w
  entries : ∀ index key,
    (p.contents w index).get? key = if index = p.pool.owner key then m key else none

theorem Holds.spared (holds : p.Holds w m) (spares : p.Spares w w') : p.Holds w' m where
  sound := spares.sound holds.sound
  entries index key := by
    rw [spares.contents holds.sound index, holds.entries]

/-! ## Single keys -/

theorem cell?_changeMemory (p : Partition) (w : World) (cell : Ref .memory) (f : Memory → Memory) :
    p.cell? (w.changeMemory cell f) = p.cell? w :=
  cell?_congr rfl

/-- A write to the cell of one shard leaves the other shards alone. -/
theorem contents_changeMemory (sound : p.Sound w) (there : p.cell? w index = some cell)
    (f : Memory → Memory) (other : Nat) :
    p.contents (w.changeMemory cell f) other =
      if other = index then (f (w.memories.get cell)).entries else p.contents w other := by
  rw [contents, contents, cell?_changeMemory]
  cases place : p.cell? w other with
  | none =>
    have apart : other ≠ index := by
      rintro rfl
      rw [there] at place
      cases place
    rw [if_neg apart]
  | some cell' =>
    dsimp only
    rw [World.entries_changeMemory]
    by_cases same : other = index
    · rw [same, there] at place
      rw [if_pos same, if_pos (Option.some.inj place).symm]
    · have apart : cell' ≠ cell := by
        rintro rfl
        exact same (sound.apart other index _ place there)
      rw [if_neg apart, if_neg same]

theorem Sound.changeMemory (sound : p.Sound w) (cell : Ref .memory) (f : Memory → Memory) :
    p.Sound (w.changeMemory cell f) where
  opened := sound.opened
  apart := by
    rw [cell?_changeMemory]
    exact sound.apart
  old := by
    rw [cell?_changeMemory]
    exact sound.old

/-- A write to the shard that owns a key, which changes the key and no other. -/
theorem Holds.wrote (holds : p.Holds w m) (there : p.cell? w (p.pool.owner key) = some cell)
    (f : Memory → Memory) (value : Option Bytes)
    (changes : ∀ other, (f (w.memories.get cell)).entries.get? other =
      if other = key then value else (w.entries cell).get? other) :
    p.Holds (w.changeMemory cell f) (Function.update m key value) where
  sound := holds.sound.changeMemory cell f
  entries index other := by
    have before := holds.entries index other
    rw [contents_changeMemory holds.sound there]
    by_cases here : index = p.pool.owner key
    · rw [contents, here, there] at before
      rw [if_pos here, changes, here]
      by_cases same : other = key
      · rw [same, if_pos rfl, if_pos rfl, Function.update_self]
      · rw [if_neg same, before, Function.update_of_ne same]
    · rw [if_neg here, before]
      by_cases same : other = key
      · rw [same, if_neg here, if_neg here]
      · rw [Function.update_of_ne same]

/-- An operation on one key, which the store hands to the shard that owns it. -/
def routed {α : Type} (p : Partition) (key : Bytes) (act : Storage → StoreM α) : StoreM α := do
  let slot ← p.pool.slot p.given.length (p.pool.owner key)
  act (slot.choose (Store.storages (p.given.map .memory)) Storage.memory Storage.nop)

theorem length_stock : (Store.storages (p.given.map .memory)).length = p.given.length := by
  rw [Store.storages_eq_map, List.length_map, List.length_map]

theorem put_eq (key value : Bytes) : p.store.put key value = p.routed key (·.put key value) := by
  simp only [Store.put, store, Store.storage, Storage.sharded, length_stock, routed]

theorem get_eq (key : Bytes) : p.store.get key = p.routed key (·.get key) := by
  simp only [Store.get, store, Store.storage, Storage.sharded, length_stock, routed]

theorem del_eq (key : Bytes) : p.store.del key = p.routed key (·.del key) := by
  simp only [Store.del, store, Store.storage, Storage.sharded, length_stock, routed]

theorem owner_lt (p : Partition) (key : Bytes) : p.pool.owner key < p.pool.count :=
  Nat.mod_lt _ p.positive

/-- The operation reaches the cell of the shard that owns its key, or fails to open it. -/
theorem run_routed {α : Type} (sound : p.Sound w) (key : Bytes) (act : Storage → StoreM α) :
    (∃ cell w₁, p.cell? w₁ (p.pool.owner key) = some cell ∧ p.Spares w w₁ ∧
      (p.routed key act).run w = (act (.memory cell)).run w₁) ∨
    ∃ e w₁, (p.routed key act).run w = .error e w₁ ∧ p.Spares w w₁ ∧
      p.OpenError (p.pool.owner key) e := by
  cases finds sound (p.owner_lt key) with
  | @found slot cell w₁ run spares there chosen =>
    refine .inl ⟨cell, w₁, there, spares, ?_⟩
    rw [routed, EStateM.run_bind, run]
    dsimp only
    rw [chosen]
  | @refused e w₁ run spares cause =>
    refine .inr ⟨e, w₁, ?_, spares, cause⟩
    rw [routed, EStateM.run_bind, run]

/-- The operation on a key gives this answer and leaves this map, or it fails to open the shard of
    the key and changes no data. -/
inductive Answers {α : Type} (p : Partition) (key : Bytes) (w : World) (x : StoreM α)
    (result : World → EStateM.Result Error World α) (m' : Bytes → Option Bytes) : Prop where
  | done {w' : World} (run : x.run w = result w') (holds : p.Holds w' m')
  | refused {e : Error} {w' : World} (run : x.run w = .error e w') (spares : p.Spares w w')
      (same : ∀ index, p.contents w' index = p.contents w index)
      (cause : p.OpenError (p.pool.owner key) e)

theorem run_put (holds : p.Holds w m) (key value : Bytes) :
    Answers p key w (p.store.put key value) (.ok ()) (Function.update m key (some value)) := by
  rw [put_eq]
  obtain ⟨cell, w₁, there, spares, run⟩ | ⟨e, w₁, run, spares, cause⟩ :=
    run_routed holds.sound key (·.put key value)
  · refine .done run ((holds.spared spares).wrote there _ _ fun other => ?_)
    exact SortedMap.get?_insert _ _ _ _
  · exact .refused run spares (spares.contents holds.sound) cause

theorem run_del (holds : p.Holds w m) (key : Bytes) :
    Answers p key w (p.store.del key) (.ok ()) (Function.update m key none) := by
  rw [del_eq]
  obtain ⟨cell, w₁, there, spares, run⟩ | ⟨e, w₁, run, spares, cause⟩ :=
    run_routed holds.sound key (·.del key)
  · refine .done run ((holds.spared spares).wrote there _ _ fun other => ?_)
    exact SortedMap.get?_erase _ _ _
  · exact .refused run spares (spares.contents holds.sound) cause

/-- What a map answers to a look-up. -/
def lookup (value : Option Bytes) (w : World) : EStateM.Result Error World Bytes :=
  match value with
  | some value => .ok value w
  | none => .error .notFound w

theorem run_get (holds : p.Holds w m) (key : Bytes) :
    Answers p key w (p.store.get key) (lookup (m key)) m := by
  rw [get_eq]
  obtain ⟨cell, w₁, there, spares, run⟩ | ⟨e, w₁, run, spares, cause⟩ :=
    run_routed holds.sound key (·.get key)
  · have found := (holds.spared spares).entries (p.pool.owner key) key
    rw [contents, there, if_pos rfl] at found
    refine .done ?_ (holds.spared spares)
    rw [run, Storage.run_memory_get, found]
    cases m key <;> rfl
  · exact .refused run spares (spares.contents holds.sound) cause

/-! ## All keys -/

section Keys

variable {τ : Type} {visit : Bytes → VisitM τ Unit}

/-- The enumeration of shards, one after the other. -/
def shardKeys (p : Partition) (visit : Bytes → VisitM τ Unit) (indexes : List Nat) :
    VisitM τ Unit :=
  indexes.forM fun index => do
    let slot ← StoreM.visiting (p.pool.slot p.given.length index)
    (slot.choose (Store.storages (p.given.map .memory)) Storage.memory Storage.nop).keys visit

theorem keys_eq (visit : Bytes → VisitM τ Unit) :
    p.store.keys visit = p.shardKeys visit (List.range p.pool.count) := by
  simp only [Store.keys, store, Store.storage, Storage.sharded, length_stock, ShardPool.iterate,
    shardKeys]

/-- How an enumeration of shards can end: with all of their keys, because a shard cannot be opened,
    or because the visitor stops it. -/
inductive KeysEnd (p : Partition) (w : World) (indexes : List Nat) (keys : List Bytes) :
    Ending → Prop where
  | whole (all : keys = indexes.flatMap fun index => (p.contents w index).keys) :
      KeysEnd p w indexes keys (.finished (.ok ()))
  | refused {index e} (cause : p.OpenError index e) :
      KeysEnd p w indexes keys (.finished (.error e))
  | stopped (e) : KeysEnd p w indexes keys (.stopped e)

theorem shows_cell (p : Partition) (visit : Bytes → VisitM τ Unit) (cell : Ref .memory) (w : World)
    (t : τ) :
    ∃ keys ending stop, Shows p.Spares visit (w, t) keys ending stop ∧
      ((Storage.memory cell).keys visit).run (w, t) = ending.result stop ∧
      (ending = .finished (.ok ()) ∧ keys = (w.entries cell).keys ∨ ∃ e, ending = .stopped e) := by
  have follows : Follows p.Spares (memoryCourse cell) (Storage.memory cell) :=
    follows_memory .refl cell
  refine ⟨_, _, _, (follows.quiet w).shows visit t, follows.run visit w t, ?_⟩
  obtain whole | ⟨stopped, -⟩ := Course.follow_each visit (w.entries cell).keys w t
  · exact .inl whole
  · exact .inr stopped

theorem shows_shards (sound : p.Sound w) (spares : ∀ key, Leaves p.Spares (visit key))
    (indexes : List Nat) (inside : ∀ index ∈ indexes, index < p.pool.count) (t : τ) :
    ∃ keys ending stop, Shows p.Spares visit (w, t) keys ending stop ∧
      (p.shardKeys visit indexes).run (w, t) = ending.result stop ∧
      KeysEnd p w indexes keys ending := by
  induction indexes generalizing w t with
  | nil => exact ⟨[], .finished (.ok ()), (w, t), .finish _ (.refl w), rfl, .whole rfl⟩
  | cons index rest ih =>
    have trans : ∀ a b c, p.Spares a b → p.Spares b c → p.Spares a c := fun _ _ _ => .trans
    cases finds sound (inside index List.mem_cons_self) with
    | @refused e w₁ run spared cause =>
      refine ⟨[], .finished (.error e), (w₁, t), .finish _ spared, ?_, .refused cause⟩
      simp only [shardKeys, List.forM, EStateM.run_bind, StoreM.run_visiting, run]
      rfl
    | @found slot cell w₁ run spared there chosen =>
      obtain ⟨keys, ending, ⟨w₂, t₂⟩, course, shown, ends⟩ :=
        shows_cell p visit cell w₁ t
      have course := course.prepend trans spared
      have here : (p.shardKeys visit (index :: rest)).run (w, t) =
          EStateM.run ((Storage.memory cell).keys visit >>= fun _ => p.shardKeys visit rest)
            (w₁, t) := by
        simp only [shardKeys, List.forM, EStateM.run_bind, StoreM.run_visiting, run, chosen]
      rw [EStateM.run_bind, shown] at here
      obtain ⟨rfl, rfl⟩ | ⟨e, rfl⟩ := ends
      · have kept : p.Spares w w₂ := course.leaves trans spares
        obtain ⟨later, ending, stop, course', run', ends'⟩ :=
          ih (kept.sound sound)
            (fun index listed => inside index (List.mem_cons_of_mem _ listed)) t₂
        refine ⟨_, ending, stop, course.append trans course', here.trans run', ?_⟩
        cases ends' with
        | refused cause => exact .refused cause
        | stopped e => exact .stopped e
        | whole all =>
          apply KeysEnd.whole
          have first : p.contents w index = w₁.entries cell := by
            rw [← spared.contents sound, contents, there]
          simp only [List.flatMap_cons, all, first, kept.contents sound]
      · exact ⟨keys, .stopped e, (w₂, t₂), course, here, .stopped e⟩

theorem Holds.mem_contents_keys_iff (holds : p.Holds w m) :
    key ∈ (p.contents w index).keys ↔ index = p.pool.owner key ∧ m key ≠ none := by
  rw [SortedMap.mem_keys_iff, SortedMap.contains, Option.isSome_iff_ne_none, holds.entries]
  by_cases here : index = p.pool.owner key
  · simp [here]
  · simp [here]

/-- The keys of all shards are the keys of the map, each once: no two shards hold one key. -/
theorem Holds.all_keys (holds : p.Holds w m) :
    ((List.range p.pool.count).flatMap fun index => (p.contents w index).keys).Nodup ∧
      ∀ key, key ∈ ((List.range p.pool.count).flatMap fun index => (p.contents w index).keys) ↔
        m key ≠ none := by
  constructor
  · refine List.nodup_flatMap.mpr ⟨fun index _ => SortedMap.keys_nodup _, ?_⟩
    refine List.nodup_range.imp fun different key first second => different ?_
    rw [(holds.mem_contents_keys_iff.mp first).1, (holds.mem_contents_keys_iff.mp second).1]
  · intro key
    simp only [List.mem_flatMap, List.mem_range, holds.mem_contents_keys_iff]
    constructor
    · rintro ⟨index, -, -, live⟩
      exact live
    · exact fun live => ⟨p.pool.owner key, p.owner_lt key, rfl, live⟩

end Keys

/-! ## Runs -/

/-- The store was just made over empty cells: over ready shards, or over shards that are opened on
    demand, where every attempt may fail. -/
inductive Founded (p : Partition) (start : World) : Prop where
  | array {w : World} {hash} (empty : ∀ cell ∈ p.given, w.entries cell = .empty)
      (made : (Store.newArray hash (p.given.map .memory)).run w = .ok p.store start)
  | hashed {w : World} {count hash fault} (empty : ∀ cell ∈ p.given, w.entries cell = .empty)
      (made : (Store.newHashed count hash fault (p.given.map .memory)).run w = .ok p.store start)

/-- The worlds that a run of operations leads to, and the map that the run amounts to. Visitors may
    do whatever neither moves shards nor changes their data. -/
inductive Reached (p : Partition) (start : World) : World → (Bytes → Option Bytes) → Prop where
  | founded : Reached p start start fun _ => none
  | put {w w' : World} {m : Bytes → Option Bytes} (key value : Bytes) (before : Reached p start w m)
      (run : (p.store.put key value).run w = .ok () w') :
      Reached p start w' (Function.update m key (some value))
  | putFailed {w w' : World} {m : Bytes → Option Bytes} {e : Error} (key value : Bytes)
      (before : Reached p start w m)
      (run : (p.store.put key value).run w = .error e w') : Reached p start w' m
  | get {w : World} {m : Bytes → Option Bytes} (key : Bytes) (before : Reached p start w m) :
      Reached p start (stateAfter (p.store.get key) w) m
  | del {w w' : World} {m : Bytes → Option Bytes} (key : Bytes) (before : Reached p start w m)
      (run : (p.store.del key).run w = .ok () w') :
      Reached p start w' (Function.update m key none)
  | delFailed {w w' : World} {m : Bytes → Option Bytes} {e : Error} (key : Bytes)
      (before : Reached p start w m) (run : (p.store.del key).run w = .error e w') :
      Reached p start w' m
  | keys {w : World} {m : Bytes → Option Bytes} {τ : Type} {visit : Bytes → VisitM τ Unit} {t : τ}
      (before : Reached p start w m) (spares : ∀ key, Leaves p.Spares (visit key)) :
      Reached p start (stateAfter (p.store.keys visit) (w, t)).1 m

/-- A new store holds nothing. -/
theorem holds_new (slots : p.slots w = .empty) (empty : ∀ cell ∈ p.given, w.entries cell = .empty) :
    p.Holds w fun _ => none := by
  have none_open : p.given = [] → ∀ index, p.cell? w index = none := by
    intro own index
    rw [cell?, if_pos own, slots]
    rfl
  have found : ∀ index cell, p.cell? w index = some cell →
      p.given ≠ [] ∧ p.given[index]? = some cell := by
    intro index cell there
    by_cases own : p.given = []
    · rw [none_open own index] at there
      cases there
    · rw [cell?, if_neg own] at there
      exact ⟨own, there⟩
  refine ⟨⟨?_, ?_, ?_⟩, ?_⟩
  · intro index slot opened
    rw [slots] at opened
    cases opened
  · intro i j cell first second
    have first := (found i cell first).2
    obtain ⟨inside, -⟩ := List.getElem?_eq_some_iff.mp first
    exact (List.getElem?_inj inside p.distinct).mp (first.trans (found j cell second).2.symm)
  · exact fun own index cell there => absurd own (found index cell there).1
  · intro index key
    have nothing : p.contents w index = .empty := by
      rw [contents]
      cases there : p.cell? w index with
      | none => rfl
      | some cell => exact empty cell (List.mem_of_getElem? (found index cell there).2)
    rw [nothing, SortedMap.get?_empty]
    exact (ite_self none).symm

theorem Founded.holds {start : World} (founded : p.Founded start) :
    p.Holds start fun _ => none := by
  have unopened : ∀ w : World, p.pool.state = ⟨w.pools.next⟩ → p.slots w.withPool = .empty := by
    intro w new
    rw [slots, new]
    exact congrArg PoolState.slots (w.pools.get_alloc_self {})
  cases founded with
  | @array w hash empty made =>
    by_cases valid : p.given.map Store.memory ≠ [] ∧ (p.given.map Store.memory).length < UInt32.size
    · rw [Store.run_newArray w valid.1 valid.2] at made
      injection made with pool made
      injection pool with pool
      subst made
      exact holds_new (unopened _ (by rw [← pool]; rfl)) empty
    · obtain ⟨detail, failed⟩ := Store.run_newArray_of_not w hash valid
      rw [failed] at made
      cases made
  | @hashed w count hash fault empty made =>
    by_cases some : count = 0
    · simp only [Store.newHashed, some, if_true] at made
      cases made
    · rw [Store.run_newHashed w some] at made
      injection made with pool made
      injection pool with pool
      subst made
      exact holds_new (unopened _ (by rw [← pool]; rfl)) empty

theorem Reached.holds {start : World} (reached : p.Reached start w m)
    (founded : p.Founded start) : p.Holds w m := by
  induction reached with
  | founded => exact founded.holds
  | put key value before run ih =>
    cases run_put ih key value with
    | done run' holds =>
      cases run'.symm.trans run
      exact holds
    | refused run' =>
      rw [run] at run'
      cases run'
  | putFailed key value before run ih =>
    cases run_put ih key value with
    | done run' =>
      rw [run] at run'
      cases run'
    | refused run' spares =>
      cases run'.symm.trans run
      exact ih.spared spares
  | @get w m key before ih =>
    cases run_get ih key with
    | @done w' run holds =>
      have same : stateAfter (p.store.get key) w = w' := by
        rw [stateAfter, run]
        cases m key <;> rfl
      rw [same]
      exact holds
    | refused run spares =>
      rw [stateAfter, run]
      exact ih.spared spares
  | del key before run ih =>
    cases run_del ih key with
    | done run' holds =>
      cases run'.symm.trans run
      exact holds
    | refused run' =>
      rw [run] at run'
      cases run'
  | delFailed key before run ih =>
    cases run_del ih key with
    | done run' =>
      rw [run] at run'
      cases run'
    | refused run' spares =>
      cases run'.symm.trans run
      exact ih.spared spares
  | @keys w m τ visit t before spares ih =>
    obtain ⟨keys, ending, stop, course, run, -⟩ := shows_shards ih.sound spares
      (List.range p.pool.count) (fun _ => List.mem_range.mp) t
    rw [keys_eq, Ending.stateAfter_of_run run]
    exact ih.spared (course.leaves (fun _ _ _ => .trans) spares)

/-- The store answers as the map does, as far as it does not fail to open a shard. -/
structure ActsAs (p : Partition) (w : World) (m : Bytes → Option Bytes) : Prop where
  put : ∀ key value,
    Answers p key w (p.store.put key value) (.ok ()) (Function.update m key (some value))
  get : ∀ key, Answers p key w (p.store.get key) (lookup (m key)) m
  del : ∀ key, Answers p key w (p.store.del key) (.ok ()) (Function.update m key none)
  /-- No shard holds a key that belongs to another one. -/
  placed : ∀ index key, (p.contents w index).get? key ≠ none → index = p.pool.owner key
  /-- An enumeration changes no data. If it succeeds, then it has shown every live key once. -/
  keys : ∀ {τ : Type} (visit : Bytes → VisitM τ Unit) (t : τ),
    (∀ key, Leaves p.Spares (visit key)) → ∃ keys ending stop,
      Shows p.Spares visit (w, t) keys ending stop ∧
      (p.store.keys visit).run (w, t) = ending.result stop ∧
      (∀ index, p.contents stop.1 index = p.contents w index) ∧
      (ending = .finished (.ok ()) → keys.Nodup ∧ ∀ key, key ∈ keys ↔ m key ≠ none) ∧
      ∀ e, ending = .finished (.error e) → ∃ index, p.OpenError index e

/-- A store sharded over distinct, empty in-memory stores is one key/value map, whatever the hash
    and the number of shards, and however often shards fail to open. -/
theorem sharded_store_is_map {start : World} (founded : p.Founded start)
    (reached : p.Reached start w m) : p.ActsAs w m := by
  have holds := reached.holds founded
  refine ⟨run_put holds, run_get holds, run_del holds, ?_, ?_⟩
  · intro index key there
    rw [holds.entries] at there
    by_cases here : index = p.pool.owner key
    · exact here
    · rw [if_neg here] at there
      exact absurd rfl there
  · intro τ visit t spares
    obtain ⟨keys, ending, stop, course, run, ends⟩ := shows_shards holds.sound spares
      (List.range p.pool.count) (fun _ => List.mem_range.mp) t
    have kept : p.Spares w stop.1 := course.leaves (fun _ _ _ => .trans) spares
    refine ⟨keys, ending, stop, course, ?_, kept.contents holds.sound, ?_, ?_⟩
    · rw [keys_eq]
      exact run
    · rintro rfl
      cases ends with
      | whole all =>
        rw [all]
        exact holds.all_keys
    · rintro e rfl
      cases ends with
      | refused cause => exact ⟨_, cause⟩

/-- A visitor that only takes notes spares every store. -/
theorem leaves_note {τ : Type} (f : τ → τ) : Leaves p.Spares (VisitM.note f) := fun s => .refl s.1

/-- The first attempt to open the second shard fails. -/
def failsOnce (index attempt : Nat) : Option Error :=
  if index = 1 ∧ attempt = 0 then some (.backend "down") else none

/-- Two shards that are opened on demand. -/
def reluctant : Partition where
  pool := ⟨⟨0⟩, fun key => (key.headD 0).toUInt32, 2, .onDemand failsOnce⟩
  given := []
  positive := Nat.two_pos
  distinct := .nil
  fits := .inr ⟨rfl, _, rfl⟩

/-- The world in which the store was made. -/
def reluctantStart : World :=
  stateAfter (Store.newHashed 2 reluctant.pool.hash failsOnce []) { randomness := fun _ => 0 }

def reluctantOnce : World := stateAfter (reluctant.store.put [1] [7]) reluctantStart

def reluctantTwice : World := stateAfter (reluctant.store.put [1] [7]) reluctantOnce

/-- The world in which all keys were listed, for which the other shard was opened. -/
def reluctantListed : World :=
  (stateAfter (reluctant.store.keys fun key => VisitM.note (· ++ [key])) (reluctantTwice, [])).1

/-- The first write fails to open its shard, and the second one opens it. -/
theorem sharded_store_is_map_reluctant :
    (reluctant.store.put [1] [7]).run reluctantStart =
      .error (.context "open shard 1" (.backend "down")) reluctantOnce ∧
    (reluctant.store.put [1] [7]).run reluctantOnce = .ok () reluctantTwice ∧
    reluctant.store.allKeys.run reluctantTwice = .ok [[1]] reluctantListed ∧
    reluctant.Founded reluctantStart ∧
    reluctant.Reached reluctantStart reluctantListed
      (Function.update (fun _ => none) [1] (some [7])) ∧
    reluctant.ActsAs reluctantListed (Function.update (fun _ => none) [1] (some [7])) := by
  have made : (Store.newHashed 2 reluctant.pool.hash failsOnce (reluctant.given.map .memory)).run
    { randomness := fun _ => 0 } = .ok reluctant.store reluctantStart := rfl
  have founded : reluctant.Founded reluctantStart := .hashed nofun made
  have failed : (reluctant.store.put [1] [7]).run reluctantStart =
    .error (.context "open shard 1" (.backend "down")) reluctantOnce := rfl
  have done : (reluctant.store.put [1] [7]).run reluctantOnce = .ok () reluctantTwice := rfl
  have written := (Reached.founded.putFailed [1] [7] failed).put [1] [7] done
  have reached := written.keys (t := ([] : List Bytes))
    fun key => leaves_note (p := reluctant) (· ++ [key])
  exact ⟨failed, done, rfl, founded, reached, sharded_store_is_map founded reached⟩

end Partition

end StoreGraph
