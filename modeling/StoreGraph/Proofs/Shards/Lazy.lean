import StoreGraph.Proofs.Plain
import StoreGraph.Proofs.Shards.Access
import StoreGraph.Proofs.Shards.Agree

/-! # Ready and lazy pools

A pool may be given its shards ready, or open them one by one when they are first needed. If opening
never fails and hands out the same stores, a sharded store over the one pool cannot be told apart
from one over the other (`lazy_pool_agrees_with_ready`): a client that goes on according to what it
was answered, and calls back into the store from its visitors, is answered the same and leaves the
same world, but for what the pool keeps to itself. Both pass on the same calls (`Routes`).
-/

namespace StoreGraph

/-! ## Clients -/

/-- A visitor that may call into stores. -/
def VisitM.calling {τ : Type} (step : τ → StoreM (Except Error Unit × τ)) : VisitM τ Unit := do
  let (_, t) ← get
  let (outcome, t) ← StoreM.visiting (step t)
  VisitM.note fun _ => t
  ofExcept outcome

/-- A client of a store: what it does next depends on all that it was answered before. Its visitors
    are clients, too. What else it does, it does in the same way in related worlds. -/
inductive Client (R : World → World → Prop) : Type → Type 1 where
  | done {α : Type} (a : α) : Client R α
  | put {α : Type} (key value : Bytes) (next : Except Error Unit → Client R α) : Client R α
  | get {α : Type} (key : Bytes) (next : Except Error Bytes → Client R α) : Client R α
  | del {α : Type} (key : Bytes) (next : Except Error Unit → Client R α) : Client R α
  | keys {α τ : Type} (start : τ) (visit : Bytes → τ → Client R (Except Error Unit × τ))
      (next : Except Error Unit × τ → Client R α) : Client R α
  | act {α β : Type} (x : StoreM β) (same : Matches R x x) (next : Except Error β → Client R α) :
      Client R α

namespace Client

variable {R : World → World → Prop} {α : Type}

def run (s : Storage) : {α : Type} → Client R α → StoreM α
  | _, done a => return a
  | _, put key value next => do (next (← attempt (s.put key value))).run s
  | _, get key next => do (next (← attempt (s.get key))).run s
  | _, del key next => do (next (← attempt (s.del key))).run s
  | _, keys start visit next => do
    let ended ← VisitM.observe start <|
      s.keys fun key => VisitM.calling fun t => (visit key t).run s
    (next ended).run s
  | _, act x _ next => do (next (← attempt x)).run s

theorem matches_calling {τ : Type} {step step' : τ → StoreM (Except Error Unit × τ)}
    (steps : ∀ t, Matches R (step t) (step' t)) :
    Matches (Alongside R) (VisitM.calling step) (VisitM.calling step') := by
  rintro ⟨w, t⟩ ⟨w', _⟩ ⟨related, rfl⟩
  have visits : Matches (Alongside R) (do
      let (outcome, t) ← StoreM.visiting (step t)
      VisitM.note fun _ => t
      ofExcept outcome) (do
      let (outcome, t) ← StoreM.visiting (step' t)
      VisitM.note fun _ => t
      ofExcept outcome) :=
    .bind (.visiting (steps t)) fun (outcome, t') => .bind (.note _) fun _ => .ofExcept outcome
  exact visits (w, t) (w', t) ⟨related, rfl⟩

/-- A client does the same with stores that match. -/
theorem matches_run {s s' : Storage} (stores : s.Matches R s') (client : Client R α) :
    Matches R (client.run s) (client.run s') := by
  induction client with
  | done a => exact .pure a
  | put key value next ih => exact .bind (stores.put key value).attempt fun outcome => ih outcome
  | get key next ih => exact .bind (stores.get key).attempt fun outcome => ih outcome
  | del key next ih => exact .bind (stores.del key).attempt fun outcome => ih outcome
  | keys start visit next visits ih =>
    exact .bind (.observe start (stores.keys fun key => matches_calling fun t => visits key t))
      fun ended => ih ended
  | act x same next ih => exact .bind same.attempt fun outcome => ih outcome

end Client

/-! ## The shards of a lazy pool -/

section Pools

variable {cell : Ref .pool} {hash : Bytes → UInt32} {count index : Nat} {w w' : World}

def readyPool (cell : Ref .pool) (hash : Bytes → UInt32) (count : Nat) : ShardPool :=
  ⟨cell, hash, count, .ready⟩

/-- A pool that opens its shards on demand, and never fails to. -/
def lazyPool (cell : Ref .pool) (hash : Bytes → UInt32) (count : Nat) : ShardPool :=
  ⟨cell, hash, count, .onDemand fun _ _ => none⟩

/-- The state of the pool may change as long as its shards stay in place. -/
theorem Agree.changePool (agree : Agree cell w w') {f : PoolState → PoolState}
    (keeps : ∀ s, InPlace s → InPlace (f s)) : Agree cell w (w'.changePool cell f) := by
  cases agree with
  | @intro pools events next others opened =>
    refine .intro next (fun other different => ?_) ?_
    · exact (Table.get_set_of_ne _ different _).trans (others other different)
    · rw [Table.modify, Table.get_set_self]
      exact keeps _ opened

theorem Agree.reporting (agree : Agree cell w w') (event : Event) :
    Agree cell w (w'.reporting event) := by
  cases agree with
  | intro next others opened => exact .intro next others opened

/-- A lazy pool finds a shard where a ready one does, whether it is open already or not. -/
theorem run_lazy_slot (agree : Agree cell w w') (hash : Bytes → UInt32) (inside : index < count) :
    ∃ w'', Agree cell w w'' ∧
      ((lazyPool cell hash count).slot count index).run w' = .ok (.stocked index) w'' := by
  cases held : ((lazyPool cell hash count).stateIn w').slots.get? index with
  | some slot =>
    have position : slot = .stocked index := by
      cases agree with
      | intro _ _ opened => exact opened index slot held
    rw [position] at held
    exact ⟨w', agree, ShardPool.run_slot_held rfl held⟩
  | none =>
    have own : count ≠ 0 := by omega
    have run : ((lazyPool cell hash count).slot count index).run w' = _ :=
      ShardPool.run_slot_unopened rfl held
    rw [Partition.run_openShard] at run
    simp only [lazyPool, if_neg own, Nat.mod_eq_of_lt inside] at run
    refine ⟨_, ((agree.changePool ?_).reporting _).changePool ?_, run⟩
    · exact fun _ placed => placed
    · intro s placed position slot found
      rw [SortedMap.get?_insert] at found
      split at found
      · rename_i here
        rw [here, ← Option.some.inj found]
      · exact placed position slot found

theorem matches_slot (inside : index < count) :
    Matches (Agree cell) ((readyPool cell hash count).slot count index)
      ((lazyPool cell hash count).slot count index) := by
  intro w w' agree
  obtain ⟨w'', agree', run⟩ := run_lazy_slot agree hash inside
  exact .ok rfl run agree'

end Pools

/-! ## Passing calls on -/

/-- A sharded store passes every request on to the owner of its key, and an enumeration to one store
    after the other. Before a call is passed on, no more has happened than `between` allows. -/
structure Routes (between : World → World → Prop) (hash : Bytes → UInt32) (stock : List Store)
    (sharded : Store) : Prop where
  owner : ∀ key, ∃ s, stock[(hash key).toNat % stock.length]? = some s ∧
    ∀ w, between w w → ∃ w', between w w' ∧
      (∀ value, (sharded.put key value).run w = (s.put key value).run w') ∧
      (sharded.get key).run w = (s.get key).run w' ∧
      (sharded.del key).run w = (s.del key).run w'
  keys : ∀ {τ : Type} (visit : Bytes → VisitM τ Unit),
    (∀ key, Matches (Alongside between) (visit key) (visit key)) → ∀ w t, between w w →
      InTurn between (fun s : Store => s.keys visit) stock (w, t) ((sharded.keys visit).run (w, t))

section Routing

variable {between : World → World → Prop} {stock : List Store} {pool : ShardPool} {w : World}

/-- The pool finds every shard at the position of its number. -/
def Finds (between : World → World → Prop) (pool : ShardPool) (stock : Nat) : Prop :=
  ∀ index, index < stock → ∀ w, between w w → ∃ w', between w w' ∧ between w' w' ∧
    (pool.slot stock index).run w = .ok (.stocked index) w'

theorem choose_storages {s : Store} {index : Nat} (there : stock[index]? = some s) :
    (Slot.stocked index).choose (Store.storages stock) .memory .nop = s.storage := by
  rw [Slot.choose, Store.storages_eq_map, List.getElem?_map, there]
  rfl

theorem inTurn_iterate_stock {τ : Type} (count : pool.count = stock.length)
    (finds : Finds between pool stock.length)
    (each : ∀ s ∈ stock, s.storage.Matches between s.storage) {visit : Bytes → VisitM τ Unit}
    (visits : ∀ key, Matches (Alongside between) (visit key) (visit key)) (begins : between w w)
    (t : τ) : InTurn between (fun s : Store => s.keys visit) stock (w, t)
      (((Store.sharded pool stock).keys visit).run (w, t)) := by
  simp only [Store.keys, Store.storage, Storage.sharded, ShardPool.iterate, count,
    List.range_eq_range', Store.length_storages]
  -- The shards from some position on: the induction is over the stores that stand there.
  have onward : ∀ (rest before : List Store), stock = before ++ rest → ∀ w t, between w w →
      InTurn between (fun s : Store => s.storage.keys visit) rest (w, t)
        (((List.range' before.length rest.length).forM fun index => do
          let slot ← StoreM.visiting (pool.slot stock.length index)
          (slot.choose (Store.storages stock) .memory .nop).keys visit).run (w, t)) := by
    intro rest
    induction rest with
    | nil => exact fun before _ w t begins => .finish begins
    | cons s rest ih =>
      intro before split w t begins
      have inside : before.length < stock.length := by
        rw [split, List.length_append, List.length_cons]
        omega
      have there : stock[before.length]? = some s := by
        rw [split, List.getElem?_append_right (Nat.le_refl _), Nat.sub_self]
        rfl
      obtain ⟨w₁, quiet, settled, run⟩ := finds before.length inside w begins
      have same := (each s (List.mem_of_getElem? there)).keys visits (w₁, t) (w₁, t) ⟨settled, rfl⟩
      have later := ih (before ++ [s]) (by rw [split, List.append_assoc]; rfl)
      rw [List.length_append, List.length_singleton] at later
      rw [List.length_cons, List.range'_succ, List.forM, EStateM.run_bind, EStateM.run_bind,
        StoreM.run_visiting, run]
      dsimp only
      rw [choose_storages there]
      cases same with
      | ok first second both =>
        cases first.symm.trans second
        rw [first]
        exact .call quiet first (later _ _ both.1)
      | error first second both =>
        rw [first]
        exact .stop quiet first
  exact onward stock [] rfl w t begins

theorem routes_of_finds (nonempty : stock ≠ []) (count : pool.count = stock.length)
    (finds : Finds between pool stock.length)
    (each : ∀ s ∈ stock, s.storage.Matches between s.storage) :
    Routes between pool.hash stock (.sharded pool stock) where
  owner key := by
    have inside := Nat.mod_lt (pool.hash key).toNat (List.length_pos_iff.2 nonempty)
    have there := List.getElem?_eq_getElem inside
    refine ⟨_, there, fun w begins => ?_⟩
    obtain ⟨w', quiet, _, run⟩ := finds _ inside w begins
    refine ⟨w', quiet, fun value => ?_, ?_, ?_⟩
    all_goals
      simp only [Store.put, Store.get, Store.del, Store.storage, Storage.sharded, ShardPool.owner,
        count, Store.length_storages, EStateM.run_bind, run, choose_storages there]
  keys visit visits w t begins := inTurn_iterate_stock count finds each visits begins t

end Routing

section Pools

variable {cell : Ref .pool} {hash : Bytes → UInt32} {stock : List Store}

/-- A store over the ready pool and one over the lazy pool match. -/
theorem matches_lazy (nonempty : stock ≠ []) (blind : ∀ s ∈ stock, s.Blind cell) :
    Storage.Matches (Agree cell) (Store.sharded (readyPool cell hash stock.length) stock).storage
      (Store.sharded (lazyPool cell hash stock.length) stock).storage := by
  have each : ∀ s ∈ Store.storages stock, s.Matches (Agree cell) s := by
    intro _ listed
    rw [Store.storages_eq_map] at listed
    obtain ⟨s, given, rfl⟩ := List.mem_map.1 listed
    exact (blind s given).matches_storage
  have chosen (slot : Slot) := matches_choose slot each matches_memory matches_nop
  have owned (key : Bytes) := @matches_slot cell hash _ _
    (Nat.mod_lt (hash key).toNat (List.length_pos_iff.2 nonempty))
  simp only [Store.storage]
  rw [← Store.length_storages] at owned ⊢
  exact
    { put := fun key value => .bind (owned key) fun slot => (chosen slot).put key value
      get := fun key => .bind (owned key) fun slot => (chosen slot).get key
      del := fun key => .bind (owned key) fun slot => (chosen slot).del key
      keys := fun visits => .forM fun index listed =>
        .bind (.visiting (matches_slot (List.mem_range.1 listed))) fun slot =>
          (chosen slot).keys visits
      clear := .none }

theorem finds_ready (stock : Nat) : Finds Eq (readyPool cell hash stock) stock :=
  fun _ _ w _ => ⟨w, rfl, rfl, rfl⟩

theorem finds_lazy (stock : Nat) : Finds (Agree cell) (lazyPool cell hash stock) stock := by
  intro index inside w agree
  obtain ⟨w', agree', run⟩ := run_lazy_slot agree hash inside
  refine ⟨w', agree', ?_, run⟩
  cases agree' with
  | intro next others opened => exact .intro rfl (fun _ _ => rfl) opened

/-- A sharded store over given stores is the same whether its pool has the stores ready or opens its
    shards on demand, as many as there are stores, never fails to, and hands out the stores in turn.
    The stores may be repeated, may fail, and may be of any kind, as long as they were there before
    the pool. Whatever a client does, it is answered the same, and the worlds agree afterwards but
    for the state of the pool. Each call is passed on to the same store in both cases. -/
theorem lazy_pool_agrees_with_ready {w : World} (nonempty : stock ≠ [])
    (few : stock.length < UInt32.size) (hash : Bytes → UInt32)
    (blind : ∀ s ∈ stock, s.Blind ⟨w.pools.next⟩) :
    ∃ ready w₁ lazy w₂, (Store.newArray hash stock).run w = .ok ready w₁ ∧
      (Store.newHashed stock.length hash (fun _ _ => none) stock).run w = .ok lazy w₂ ∧
      Agree ⟨w.pools.next⟩ w₁ w₂ ∧
      (∀ {α : Type} (client : Client (Agree ⟨w.pools.next⟩) α),
        outcome (client.run ready.storage) w₁ = outcome (client.run lazy.storage) w₂ ∧
          Agree ⟨w.pools.next⟩ (stateAfter (client.run ready.storage) w₁)
            (stateAfter (client.run lazy.storage) w₂)) ∧
      Routes Eq hash stock ready ∧ Routes (Agree ⟨w.pools.next⟩) hash stock lazy := by
  have agree : Agree ⟨w.pools.next⟩ (w.reporting (.arrayPoolCreating stock.length)).withPool
      (w.reporting (.hashedPoolCreating stock.length)).withPool := by
    refine .intro rfl (fun _ _ => rfl) fun index slot held => ?_
    have fresh : ((w.pools.alloc {}).2.get ⟨w.pools.next⟩ : PoolState) = {} :=
      Table.get_alloc_self w.pools {}
    cases (congrArg (fun state => state.slots.get? index) fresh).symm.trans held
  refine ⟨_, _, _, _, Store.run_newArray w nonempty few,
    Store.run_newHashed w (Nat.ne_of_gt (List.length_pos_iff.2 nonempty)) hash _ stock, agree,
    fun client => ?_, ?_, ?_⟩
  · have same := client.matches_run (@matches_lazy _ hash _ nonempty blind)
    exact ⟨same.outcome_eq agree, same.stateAfter_related agree⟩
  · exact routes_of_finds nonempty rfl (finds_ready _) fun s _ => .refl s.storage
  · exact routes_of_finds nonempty rfl (finds_lazy _) fun s given => (blind s given).matches_storage

end Pools

/-- Four stores: one stands twice, one may fail, and one has them for its copies. -/
def mixedStock : List Store :=
  [.memory ⟨0⟩, .probe ⟨0⟩ {}, .memory ⟨0⟩,
    .redundant (.quorum .any) [.memory ⟨0⟩, .probe ⟨0⟩ {}] (.offloaded ⟨0⟩) (.memory ⟨1⟩)]

/-- A world in which the probe refuses every write. -/
def refusingWorld : World :=
  { randomness := fun _ => 0 : World }.ruled ⟨0⟩ [{ op := .put, error := .backend "refused" }]

/-- Put two values, and list the keys as far as the second one. -/
def putsAndListing : Client (Agree ⟨refusingWorld.pools.next⟩) (Bool × Bool × List Bytes) :=
  .put [0] [7] fun first => .put [0, 0, 0] [8] fun second =>
    .keys [] (fun key seen =>
        .done (if seen.length < 2 then .ok () else .error (.backend "enough"), seen ++ [key]))
      fun ended => .done (first.isOk, second.isOk, ended.2)

theorem lazy_pool_agrees_with_ready_on_mixed_stock :
    mixedStock ≠ [] ∧ mixedStock.length < UInt32.size ∧
      (∀ s ∈ mixedStock, s.Blind ⟨refusingWorld.pools.next⟩) ∧
      ∃ ready w₁ lazy w₂,
        (Store.newArray (fun key => .ofNat key.length) mixedStock).run refusingWorld =
          .ok ready w₁ ∧
        (Store.newHashed 4 (fun key => .ofNat key.length) (fun _ _ => none) mixedStock).run
          refusingWorld = .ok lazy w₂ ∧
        outcome (putsAndListing.run ready.storage) w₁ =
          outcome (putsAndListing.run lazy.storage) w₂ := by
  have nonempty : mixedStock ≠ [] := by decide
  have few : mixedStock.length < UInt32.size := by decide
  have blind : ∀ s ∈ mixedStock, s.Blind ⟨refusingWorld.pools.next⟩ := by
    have plain : ∀ s ∈ [Store.memory ⟨0⟩, .probe ⟨0⟩ {}],
        s.Blind ⟨refusingWorld.pools.next⟩ := by
      rintro _ (_ | ⟨_, _ | ⟨_, ⟨⟩⟩⟩)
      · exact .memory
      · exact .probe
    rintro _ (_ | ⟨_, _ | ⟨_, _ | ⟨_, _ | ⟨_, ⟨⟩⟩⟩⟩⟩)
    · exact .memory
    · exact .probe
    · exact .memory
    · exact .redundant (blind_quorum .any) plain .memory
  obtain ⟨ready, w₁, lazy, w₂, first, second, -, same, -⟩ :=
    lazy_pool_agrees_with_ready nonempty few (fun key => .ofNat key.length) blind
  exact ⟨nonempty, few, blind, ready, w₁, lazy, w₂, first, second, (same putsAndListing).1⟩

end StoreGraph
