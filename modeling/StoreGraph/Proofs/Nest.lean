import StoreGraph.Proofs.Creation
import StoreGraph.Proofs.Redundant.Quorum
import StoreGraph.Proofs.Shards.Lazy

/-! # Nests of stores

Sharded and redundant stores stand over stores that may themselves be sharded or redundant, to any
depth, and over other stores at the leaves. Closing the root succeeds if every leaf can be closed,
and otherwise ends in a failure that carries the failures of all leaves that fail, in order. What is
counted are the members of the root, however: failures that were joined further down stand under a
context, and a context counts as a single failure (`close_counts_branches`,
`joined_below_counted_once`).
-/

namespace StoreGraph

namespace Error

mutual

/-- What was joined into a failure, at any depth and under any contexts. -/
def causes : Error → List Error
  | aggregated failures => causesOf failures
  | context _ cause => causes cause
  | e => [e]

def causesOf : List Error → List Error
  | [] => []
  | failure :: rest => causes failure ++ causesOf rest

end

theorem causesOf_eq_flatMap (failures : List Error) :
    causesOf failures = failures.flatMap causes := by
  induction failures with
  | nil => rfl
  | cons failure rest ih => rw [causesOf, ih, List.flatMap_cons]

@[simp] theorem causes_context (doing : String) (cause : Error) :
    (context doing cause).causes = cause.causes := by
  rw [causes]

/-- Is this, under any contexts, a failure that was not joined from others? -/
def isSingle : Error → Bool
  | aggregated _ => false
  | context _ cause => isSingle cause
  | _ => true

theorem length_causes_of_isSingle {e : Error} (single : e.isSingle) : e.causes.length = 1 := by
  induction e using isSingle.induct with
  | case1 failures => cases single
  | case2 doing cause ih =>
    rw [causes_context]
    exact ih single
  | case3 e notJoined notContext => rw [causes] <;> simp_all

theorem failureCount_of_isSingle {e : Error} (single : e.isSingle) : e.failureCount = 1 := by
  cases e with
  | aggregated failures => cases single
  | _ => rfl

theorem causes_of_join {failures : List Error} {e : Error} (joined : join? failures = some e) :
    e.causes = failures.flatMap causes := by
  match failures with
  | [] => cases joined
  | [failure] =>
    cases joined
    rw [List.flatMap_cons, List.flatMap_nil, List.append_nil]
  | first :: second :: rest =>
    cases joined
    rw [causes, causesOf_eq_flatMap]

/-- Failures under contexts are counted one by one when they are joined. -/
theorem failureCount_of_join {failures : List Error} {e : Error}
    (each : ∀ failure ∈ failures, failure.failureCount = 1) (joined : join? failures = some e) :
    e.failureCount = failures.length := by
  match failures with
  | [] => cases joined
  | [failure] =>
    cases joined
    exact each e List.mem_cons_self
  | first :: second :: rest =>
    cases joined
    rfl

end Error

/-! ## Trees of stores -/

/-- How a store is built out of others. -/
inductive Nest where
  /-- A store that is there already. -/
  | leaf (store : Store)
  /-- A store sharded over a list of ready stores. -/
  | sharded (hash : Bytes → UInt32) (members : List Nest)
  /-- A store over several copies. -/
  | redundant (policy : ReplicaPolicy) (dedup : DedupScheme) (offload : Store) (members : List Nest)

namespace Nest

mutual

def build : Nest → StoreM Store
  | leaf store => return store
  | sharded hash members => do Store.newArray hash (← buildEach members)
  | redundant policy dedup offload members => do
    Store.newRedundant policy (← buildEach members) dedup offload

def buildEach : List Nest → StoreM (List Store)
  | [] => return []
  | nest :: rest => return (← build nest) :: (← buildEach rest)

end

mutual

/-- The leaves, in order. -/
def leaves : Nest → List Store
  | leaf store => [store]
  | sharded _ members | redundant _ _ _ members => (leavesEach members).flatten

def leavesEach : List Nest → List (List Store)
  | [] => []
  | nest :: rest => leaves nest :: leavesEach rest

end

/-- The leaves under each member of the root. -/
def branches : Nest → List (List Store)
  | leaf store => [[store]]
  | sharded _ members | redundant _ _ _ members => leavesEach members

theorem flatten_branches (nest : Nest) : nest.branches.flatten = nest.leaves := by
  cases nest <;> simp [branches, leaves]

/-- The failures with which stores are closed in a world. -/
def failing (stores : List Store) (w : World) : List Error :=
  stores.filterMap fun s => failure? s.close w

/-- Closing the one store has no influence on what becomes of closing the other one. -/
def Apart (a b : Store) : Prop :=
  ∀ w, outcome a.close (stateAfter b.close w) = outcome a.close w ∧
    outcome b.close (stateAfter a.close w) = outcome b.close w

/-- Closing a store neither reads nor changes the pools that are taken from some time on. -/
structure Precedes (base : Nat) (s : Store) : Prop where
  pools : ∀ w (pool : Ref .pool), base ≤ pool.index →
    (stateAfter s.close w).pools.get pool = w.pools.get pool
  fate : ∀ w (pool : Ref .pool) f, base ≤ pool.index →
    outcome s.close (w.changePool pool f) = outcome s.close w

theorem failing_congr {stores : List Store} {w w' : World}
    (same : ∀ s ∈ stores, outcome s.close w' = outcome s.close w) :
    failing stores w' = failing stores w := by
  refine List.filterMap_congr fun s listed => ?_
  rw [failure?, same s listed, failure?]

theorem countP_failing_congr {parts : List (List Store)} {w w' : World}
    (same : ∀ s ∈ parts.flatten, outcome s.close w' = outcome s.close w) :
    (parts.countP fun part => !(failing part w').isEmpty) =
      parts.countP fun part => !(failing part w).isEmpty := by
  refine List.countP_congr fun part listed => ?_
  rw [failing_congr fun s member => same s (List.mem_flatten_of_mem listed member)]

theorem failing_append (first second : List Store) (w : World) :
    failing (first ++ second) w = failing first w ++ failing second w := List.filterMap_append ..

/-! ## Building -/

/-- The pools of an interval were not closed. -/
def Unclosed (lo hi : Nat) (w : World) : Prop :=
  ∀ pool : Ref .pool, lo ≤ pool.index → pool.index < hi → (w.pools.get pool).closed = false

/-- Nothing happens to pools, except that new ones are taken. -/
structure Takes (w w' : World) : Prop where
  next : w.pools.next ≤ w'.pools.next
  older : ∀ pool : Ref .pool, pool.index < w.pools.next → w'.pools.get pool = w.pools.get pool
  unclosed : Unclosed w.pools.next w'.pools.next w'

theorem frame_takes : Frame Takes where
  refl w := ⟨Nat.le_refl _, fun _ _ => rfl, fun pool old new => by omega⟩
  trans {w₁ w₂ w₃} first second := by
    refine ⟨Nat.le_trans first.next second.next, fun pool old => ?_, fun pool old new => ?_⟩
    · rw [second.older pool (Nat.lt_of_lt_of_le old first.next), first.older pool old]
    · by_cases between : pool.index < w₂.pools.next
      · rw [second.older pool between]
        exact first.unclosed pool old between
      · exact second.unclosed pool (Nat.le_of_not_lt between) new

theorem takes_pool (w : World) (event : Event) : Takes w (w.reporting event).withPool := by
  refine ⟨Nat.le_succ _, fun pool old => w.pools.get_alloc_of_lt old {}, fun pool old new => ?_⟩
  obtain ⟨index⟩ := pool
  obtain rfl : index = w.pools.next := Nat.le_antisymm (Nat.le_of_lt_succ new) old
  change ((w.pools.alloc {}).2.get (w.pools.alloc {}).1).closed = false
  rw [Table.get_alloc_self]

theorem takes_newArray (hash : Bytes → UInt32) (shards : List Store) :
    Moves Takes (Store.newArray hash shards) := by
  intro w
  by_cases right : shards ≠ [] ∧ shards.length < UInt32.size
  · rw [stateAfter_ok (Store.run_newArray w right.1 right.2)]
    exact takes_pool w _
  · obtain ⟨detail, run⟩ := Store.run_newArray_of_not w hash right
    rw [stateAfter_error run]
    exact frame_takes.refl w

theorem takes_newRedundant (policy : ReplicaPolicy) (backs : List Store) (dedup : DedupScheme)
    (offload : Store) : Moves Takes (Store.newRedundant policy backs dedup offload) := by
  intro w
  cases backs with
  | nil => exact frame_takes.refl w
  | cons back rest =>
    rw [stateAfter_ok (Store.run_newRedundant w (List.cons_ne_nil back rest))]
    exact ⟨Nat.le_refl _, fun _ _ => rfl, fun pool old new => absurd new (Nat.not_lt.2 old)⟩

mutual

theorem takes_build : (nest : Nest) → Moves Takes nest.build
  | leaf store => by
    rw [build]
    exact .pure frame_takes store
  | sharded hash members => by
    rw [build]
    exact .bind frame_takes (takes_buildEach members) (takes_newArray hash)
  | redundant policy dedup offload members => by
    rw [build]
    exact .bind frame_takes (takes_buildEach members) fun backs =>
      takes_newRedundant policy backs dedup offload

theorem takes_buildEach : (nests : List Nest) → Moves Takes (buildEach nests)
  | [] => .pure frame_takes []
  | nest :: rest => by
    rw [buildEach]
    exact .bind frame_takes (takes_build nest) fun store =>
      .bind frame_takes (takes_buildEach rest) fun stores => .pure frame_takes (store :: stores)

end

/-! ## Closing -/

/-- The outcome of closing a store that stands over the leaves in several branches. -/
structure Accounts (branches : List (List Store)) (w : World) (outcome : Except Error Unit) :
    Prop where
  ok_iff : outcome = .ok () ↔ failing branches.flatten w = []
  causes : ∀ e, outcome = .error e → e.causes = (failing branches.flatten w).flatMap Error.causes
  count : ∀ e, outcome = .error e → (∀ cause ∈ failing branches.flatten w, cause.isSingle) →
    e.failureCount = branches.countP fun branch => !(failing branch w).isEmpty

/-- What closing leaves alone: the pools from some time on, but for those of an interval, and the
    fate of every store that has nothing to do with the leaves. -/
structure Keeps (base lo hi : Nat) (leaves : List Store) (w w' : World) : Prop where
  pools : ∀ pool : Ref .pool, base ≤ pool.index → ¬ (lo ≤ pool.index ∧ pool.index < hi) →
    w'.pools.get pool = w.pools.get pool
  fates : ∀ s, Precedes base s → (∀ leaf ∈ leaves, Apart s leaf) →
    outcome s.close w' = outcome s.close w

/-- An action closes a store over the leaves in several branches, and the pools of an interval, none
    of which was closed before. -/
structure Closes (base lo hi : Nat) (branches : List (List Store)) (close : StoreM Unit) :
    Prop where
  accounts : ∀ w, Unclosed lo hi w → Accounts branches w (outcome close w)
  keeps : ∀ w, Unclosed lo hi w → Keeps base lo hi branches.flatten w (stateAfter close w)

/-- The failures that are collected when the stores over several branches are closed in turn. -/
structure Collects (base lo hi : Nat) (branches : List (List Store)) (w w' : World)
    (failures : List Error) : Prop where
  causes : failures.flatMap Error.causes = (failing branches.flatten w).flatMap Error.causes
  length : failures.length = branches.countP fun branch => !(failing branch w).isEmpty
  each : ∀ failure ∈ failures, failure.failureCount = 1
  keeps : Keeps base lo hi branches.flatten w w'

/-- Several stores can be closed in turn, each under a description. -/
def ClosesEach (base lo hi : Nat) (branches : List (List Store)) (closes : List (StoreM Unit)) :
    Prop :=
  ∀ calls : List (String × StoreM Unit), calls.map Prod.snd = closes → ∀ w, Unclosed lo hi w →
    ∃ failures w', (gatherFailures calls).run w = .ok failures w' ∧
      Collects base lo hi branches w w' failures

section Closing

variable {base lo mid hi : Nat} {w w' : World} {branches : List (List Store)}

theorem accounts_leaf (s : Store) (w : World) : Accounts [[s]] w (outcome s.close w) := by
  have flat : [[s]].flatten = [s] := rfl
  cases closed : outcome s.close w with
  | ok _ =>
    have fine : failing [s] w = [] := by simp [failing, failure?, closed]
    constructor
    · exact iff_of_true rfl fine
    · intro e failed
      cases failed
    · intro e failed
      cases failed
  | error e =>
    have lost : failing [s] w = [e] := by simp [failing, failure?, closed]
    constructor
    · rw [flat, lost]
      simp
    · intro e' failed
      cases failed
      rw [flat, lost, List.flatMap_cons, List.flatMap_nil, List.append_nil]
    · intro e' failed single
      cases failed
      rw [flat, lost, List.forall_mem_singleton] at single
      rw [Error.failureCount_of_isSingle single, List.countP_cons, List.countP_nil, lost]
      rfl

theorem closes_leaf {s : Store} (older : Precedes base s) : Closes base lo lo [[s]] s.close where
  accounts w _ := accounts_leaf s w
  keeps w _ := ⟨fun pool new _ => older.pools w pool new,
    fun _ _ apart => (apart s List.mem_cons_self w).1⟩

theorem closesEach_nil : ClosesEach base lo lo [] [] := by
  intro calls described w _
  obtain rfl := List.map_eq_nil_iff.1 described
  exact ⟨[], w, rfl, rfl, rfl, nofun, ⟨fun _ _ _ => rfl, fun _ _ _ => rfl⟩⟩

theorem Keeps.trans {first second : List Store} {w₁ : World} (ordered : lo ≤ mid ∧ mid ≤ hi)
    (before : Keeps base lo mid first w w₁) (after : Keeps base mid hi second w₁ w') :
    Keeps base lo hi (first ++ second) w w' := by
  refine ⟨fun pool new outside => ?_, fun s older apart => ?_⟩
  · rw [after.pools pool new (by omega), before.pools pool new (by omega)]
  · rw [after.fates s older fun leaf listed => apart leaf (List.mem_append_right _ listed),
      before.fates s older fun leaf listed => apart leaf (List.mem_append_left _ listed)]

theorem closesEach_cons {branch : List Store} {parts : List (List Store)} {close : StoreM Unit}
    {closes : List (StoreM Unit)} (ordered : base ≤ lo ∧ lo ≤ mid ∧ mid ≤ hi)
    (first : Closes base lo mid parts close) (whole : parts.flatten = branch)
    (apart : ∀ a ∈ branch, ∀ b ∈ branches.flatten, Apart a b)
    (older : ∀ s ∈ branches.flatten, Precedes base s)
    (further : ClosesEach base mid hi branches closes) :
    ClosesEach base lo hi (branch :: branches) (close :: closes) := by
  intro calls described w unclosed
  obtain ⟨⟨doing, x⟩, rest, rfl, rfl, describedRest⟩ := List.map_eq_cons_iff.1 described
  have inside : Unclosed lo mid w := fun pool low high => unclosed pool low (by omega)
  obtain ⟨ok_iff, causes, -⟩ := first.accounts w inside
  have kept := first.keeps w inside
  rw [whole] at ok_iff causes kept
  dsimp only at ok_iff causes kept
  have beyond : Unclosed mid hi (stateAfter x w) := by
    intro pool low high
    rw [kept.pools pool (by omega) (by omega)]
    exact unclosed pool (by omega) high
  obtain ⟨failures, w', run, collects⟩ := further rest describedRest (stateAfter x w) beyond
  have later : ∀ s ∈ branches.flatten, outcome s.close (stateAfter x w) = outcome s.close w :=
    fun s listed => kept.fates s (older s listed) fun leaf under w =>
      (apart leaf under s listed w).symm
  have keeps := kept.trans ordered.2 collects.keeps
  have causes' := collects.causes
  rw [failing_congr later] at causes'
  have length := collects.length
  rw [countP_failing_congr later] at length
  cases closed : x.run w with
  | ok _ w₁ =>
    have fine : failing branch w = [] := ok_iff.1 (outcome_ok closed)
    rw [stateAfter_ok closed] at run
    refine ⟨failures, w', ?_, ?_, ?_, collects.each, keeps⟩
    · simp only [gatherFailures, EStateM.run_bind, run_attempt, closed, run]
    · rw [List.flatten_cons, failing_append, fine, List.nil_append, causes']
    · rw [List.countP_cons, fine, length]
      rfl
  | error e w₁ =>
    have lost : failing branch w ≠ [] := fun fine => by
      cases (outcome_error closed).symm.trans (ok_iff.2 fine)
    rw [stateAfter_error closed] at run
    refine ⟨.context doing e :: failures, w', ?_, ?_, ?_, ?_, keeps⟩
    · simp only [gatherFailures, EStateM.run_bind, run_attempt, closed, run, EStateM.run_pure]
    · rw [List.flatten_cons, failing_append, List.flatMap_append, List.flatMap_cons, causes',
        Error.causes_context, causes e (outcome_error closed)]
    · rw [List.length_cons, length, List.countP_cons, if_pos]
      simpa using lost
    · exact List.forall_mem_cons.2 ⟨rfl, collects.each⟩

/-- What is collected from the members of a store decides the outcome of closing it. -/
theorem Collects.accounts {failures : List Error}
    (collects : Collects base lo hi branches w w' failures) :
    Accounts branches w (Error.ofFailures failures) := by
  have fine_iff : failures = [] ↔ failing branches.flatten w = [] := by
    rw [← List.length_eq_zero_iff, collects.length, List.countP_eq_zero, failing,
      List.filterMap_flatten, List.flatten_eq_nil_iff]
    simp [failing]
  unfold Error.ofFailures
  cases joined : Error.join? failures with
  | none => exact ⟨iff_of_true rfl (fine_iff.1 (Error.join?_eq_none_iff.1 joined)), nofun, nofun⟩
  | some e =>
    refine ⟨iff_of_false nofun fun fine => ?_, fun e' failed => ?_, fun e' failed _ => ?_⟩
    · rw [fine_iff.2 fine] at joined
      cases joined
    · cases failed
      rw [Error.causes_of_join joined, collects.causes]
    · cases failed
      rw [Error.failureCount_of_join collects.each joined, collects.length]

/-- Run the actions that close the members of a store, and join their failures. -/
def closeEach (doing : String) (closes : List (StoreM Unit)) : StoreM Unit := do
  let failures ← gatherFailures (numbered doing closes)
  ofExcept (Error.ofFailures failures)

theorem closes_closeEach {closes : List (StoreM Unit)}
    (each : ClosesEach base lo hi branches closes) (doing : String) :
    Closes base lo hi branches (closeEach doing closes) := by
  have ends : ∀ w, Unclosed lo hi w → ∃ failures w', Collects base lo hi branches w w' failures ∧
      outcome (closeEach doing closes) w = Error.ofFailures failures ∧
      stateAfter (closeEach doing closes) w = w' := by
    intro w unclosed
    obtain ⟨failures, w', run, collects⟩ := each _ (map_snd_numbered doing closes) w unclosed
    refine ⟨failures, w', collects, ?_, ?_⟩
    all_goals
      simp only [closeEach, outcome_bind, stateAfter_bind, outcome_ok run, stateAfter_ok run]
      cases Error.ofFailures failures <;> rfl
  refine ⟨fun w unclosed => ?_, fun w unclosed => ?_⟩
  · obtain ⟨failures, w', collects, answer, -⟩ := ends w unclosed
    rw [answer]
    exact collects.accounts
  · obtain ⟨failures, w', collects, -, rfl⟩ := ends w unclosed
    exact collects.keeps

theorem close_redundant (policy : ReplicaPolicy) (backs : List Store) (dedup : DedupScheme)
    (offload : Store) : (Store.redundant policy backs dedup offload).close =
      closeEach "close on storage" (backs.map Store.close) := by
  simp only [Store.close, Store.storage, Storage.redundant, Store.storages_eq_map, List.map_map]
  rfl

/-- A pool of ready shards that was not closed marks itself as closed and closes its shards. -/
theorem run_close_sharded {pool : Ref .pool} (hash : Bytes → UInt32) (shards : List Store)
    (unclosed : (w.pools.get pool).closed = false) :
    ((Store.sharded ⟨pool, hash, shards.length, .ready⟩ shards).close).run w =
      (closeEach "close shard" (shards.map Store.close)).run
        (w.changePool pool ({ · with closed := true })) := by
  have slots : ((List.range shards.length).map Slot.stocked).map (fun slot =>
      (slot.choose (Store.storages shards) .memory .nop).close) = shards.map Store.close := by
    rw [List.map_map]
    refine List.ext_getElem (by simp) fun index _ inside => ?_
    rw [List.length_map] at inside
    have there : shards[index]? = some shards[index] := List.getElem?_eq_getElem inside
    simp only [List.getElem_map, List.getElem_range, Function.comp_apply]
    rw [choose_storages there]
    rfl
  simp only [Store.close, Store.storage, Storage.sharded, ShardPool.close, ShardPool.read,
    EStateM.run_bind, EStateM.run_get, EStateM.run_pure, unclosed, slots]
  rfl

theorem Accounts.congr {o : Except Error Unit}
    (same : ∀ s ∈ branches.flatten, outcome s.close w' = outcome s.close w)
    (accounts : Accounts branches w' o) : Accounts branches w o := by
  obtain ⟨ok_iff, causes, count⟩ := accounts
  rw [failing_congr same] at ok_iff causes count
  exact ⟨ok_iff, causes, fun e failed single =>
    (count e failed single).trans (countP_failing_congr same)⟩

theorem closes_sharded {shards : List Store} (hash : Bytes → UInt32) (ordered : base ≤ lo ∧ lo ≤ hi)
    (older : ∀ s ∈ branches.flatten, Precedes base s)
    (each : ClosesEach base lo hi branches (shards.map Store.close)) :
    Closes base lo (hi + 1) branches
      (Store.sharded ⟨⟨hi⟩, hash, shards.length, .ready⟩ shards).close := by
  have members := closes_closeEach each "close shard"
  let marked (w : World) : World := w.changePool ⟨hi⟩ ({ · with closed := true })
  have others : ∀ w (pool : Ref .pool), pool.index ≠ hi →
      (marked w).pools.get pool = w.pools.get pool := fun w pool different =>
    Table.get_set_of_ne _ (fun same => different (congrArg Ref.index same)) _
  have fates : ∀ w s, Precedes base s → outcome s.close (marked w) = outcome s.close w :=
    fun w s before => before.fate w ⟨hi⟩ _ (Nat.le_trans ordered.1 ordered.2)
  have run : ∀ w, Unclosed lo (hi + 1) w →
      (Store.sharded ⟨⟨hi⟩, hash, shards.length, .ready⟩ shards).close.run w =
        (closeEach "close shard" (shards.map Store.close)).run (marked w) := fun w unclosed =>
    run_close_sharded hash shards (unclosed ⟨hi⟩ ordered.2 (Nat.lt_succ_self hi))
  have inside : ∀ w, Unclosed lo (hi + 1) w → Unclosed lo hi (marked w) := by
    intro w unclosed pool low high
    rw [others w pool (Nat.ne_of_lt high)]
    exact unclosed pool low (Nat.lt_succ_of_lt high)
  refine ⟨fun w unclosed => ?_, fun w unclosed => ?_⟩
  · rw [outcome_congr (run w unclosed)]
    exact (members.accounts _ (inside w unclosed)).congr fun s listed => fates w s (older s listed)
  · rw [stateAfter_congr (run w unclosed)]
    have keeps := members.keeps _ (inside w unclosed)
    refine ⟨fun pool new outside => ?_, fun s before apart => ?_⟩
    · rw [keeps.pools pool new (by omega), others w pool (by omega)]
    · rw [keeps.fates s before apart, fates w s before]

theorem closes_redundant {backs : List Store} (policy : ReplicaPolicy) (dedup : DedupScheme)
    (offload : Store) (each : ClosesEach base lo hi branches (backs.map Store.close)) :
    Closes base lo hi branches (Store.redundant policy backs dedup offload).close := by
  rw [close_redundant]
  exact closes_closeEach each "close on storage"

end Closing

/-! ## Closing what was built -/

mutual

/-- A nest over leaves that have nothing to do with each other. -/
theorem closes_build {base : Nat} {w w₁ : World} {root : Store} :
    (nest : Nest) → nest.build.run w = .ok root w₁ → base ≤ w.pools.next →
    nest.leaves.Pairwise Apart → (∀ s ∈ nest.leaves, Precedes base s) →
    Closes base w.pools.next w₁.pools.next nest.branches root.close
  | leaf store, built, _, _, older => by
    rw [build, EStateM.run_pure] at built
    cases built
    exact closes_leaf (older root List.mem_cons_self)
  | sharded hash members, built, begins, apart, older => by
    rw [build, run_bind_eq_ok_iff] at built
    obtain ⟨shards, w', built, made⟩ := built
    have each := closesEach_buildEach members built begins apart older
    have next := ((takes_buildEach members).of_ok built).next
    by_cases right : shards ≠ [] ∧ shards.length < UInt32.size
    · rw [Store.run_newArray w' right.1 right.2] at made
      cases made
      exact closes_sharded hash ⟨begins, next⟩ older each
    · obtain ⟨detail, run⟩ := Store.run_newArray_of_not w' hash right
      rw [run] at made
      cases made
  | redundant policy dedup offload members, built, begins, apart, older => by
    rw [build, run_bind_eq_ok_iff] at built
    obtain ⟨backs, w', built, made⟩ := built
    have each := closesEach_buildEach members built begins apart older
    cases backs with
    | nil => cases made
    | cons back rest =>
      rw [Store.run_newRedundant w' (List.cons_ne_nil back rest)] at made
      cases made
      exact closes_redundant policy dedup offload each

theorem closesEach_buildEach {base : Nat} {w w₁ : World} {stores : List Store} :
    (nests : List Nest) → (buildEach nests).run w = .ok stores w₁ → base ≤ w.pools.next →
    (leavesEach nests).flatten.Pairwise Apart →
    (∀ s ∈ (leavesEach nests).flatten, Precedes base s) →
    ClosesEach base w.pools.next w₁.pools.next (leavesEach nests) (stores.map Store.close)
  | [], built, _, _, _ => by
    cases built
    exact closesEach_nil
  | nest :: rest, built, begins, apart, older => by
    rw [buildEach, run_bind_eq_ok_iff] at built
    obtain ⟨root, w₂, builtFirst, built⟩ := built
    rw [run_bind_eq_ok_iff] at built
    obtain ⟨stores, w₃, builtRest, built⟩ := built
    cases built
    simp only [leavesEach, List.flatten_cons, List.pairwise_append, List.mem_append]
      at apart older ⊢
    have first := closes_build nest builtFirst begins apart.1 fun s listed => older s (.inl listed)
    have next := ((takes_build nest).of_ok builtFirst).next
    have further := closesEach_buildEach rest builtRest (Nat.le_trans begins next) apart.2.1
      fun s listed => older s (.inr listed)
    exact closesEach_cons ⟨begins, next, ((takes_buildEach rest).of_ok builtRest).next⟩ first
      nest.flatten_branches apart.2.2 (fun s listed => older s (.inr listed)) further

end

/-! ## Plain stores as leaves -/

/-- What closing a plain store answers that keeps something. -/
def closeAnswer : SortedMap Bytes Bytes ⊕ Probe → Except Error Unit
  | .inl _ => .ok ()
  | .inr p => match (FaultRule.consult Call.close.op Call.close.key? p.rules).1 with
    | some e => .error e
    | none => .ok ()

theorem close_plain (p : PlainStore) (w : World) :
    outcome p.store.close w = closeAnswer (p.kept w) ∧
      (∀ q, p.Apart q → q.kept (stateAfter p.store.close w) = q.kept w) ∧
      (stateAfter p.store.close w).pools = w.pools := by
  cases p with
  | memory cell => exact ⟨rfl, fun _ _ => rfl, rfl⟩
  | probe cell traits =>
    have run : ((PlainStore.probe cell traits).store.close).run w = _ :=
      Probe.run_enter cell w .close
    have left :
        stateAfter (PlainStore.probe cell traits).store.close w = w.entered cell .close := by
      rw [stateAfter, run]
      cases w.fault? cell .close <;> rfl
    rw [left]
    refine ⟨?_, fun q apart => ?_, rfl⟩
    · rw [outcome, run]
      simp only [World.fault?, World.rules, closeAnswer, PlainStore.kept]
      cases (FaultRule.consult Call.close.op Call.close.key? (w.probes.get cell).rules).1 <;> rfl
    · cases q with
      | memory cell' => rfl
      | probe cell' traits' =>
        have different : cell' ≠ cell := Ne.symm apart
        exact congrArg Sum.inr
          ((KeyRequest.probe_entered w cell cell' .close).trans (if_neg different))

theorem precedes_plain (p : PlainStore) (base : Nat) : Precedes base p.store where
  pools w pool _ := by rw [(close_plain p w).2.2]
  fate w pool f _ := by
    rw [(close_plain p _).1, (close_plain p w).1]
    cases p <;> rfl

theorem apart_plain {p q : PlainStore} (apart : p.Apart q) : Apart p.store q.store := by
  intro w
  rw [(close_plain p _).1, (close_plain p w).1, (close_plain q _).1, (close_plain q w).1,
    (close_plain p w).2.1 q apart, (close_plain q w).2.1 p apart.symm]
  exact ⟨rfl, rfl⟩

/-! ## Counting failures -/

theorem countP_le_length_flatten {α : Type} (parts : List (List α)) :
    parts.countP (!·.isEmpty) ≤ parts.flatten.length := by
  induction parts with
  | nil => exact Nat.le_refl 0
  | cons part rest ih =>
    rw [List.flatten_cons, List.length_append, List.countP_cons]
    cases part with
    | nil => exact Nat.le_trans ih (Nat.le_add_left _ _)
    | cons a part =>
      simp only [List.isEmpty_cons, Bool.not_false, if_true, List.length_cons]
      omega

theorem countP_eq_length_flatten_iff {α : Type} (parts : List (List α)) :
    parts.countP (!·.isEmpty) = parts.flatten.length ↔ ∀ part ∈ parts, part.length ≤ 1 := by
  induction parts with
  | nil => simp
  | cons part rest ih =>
    have further := countP_le_length_flatten rest
    refine Iff.trans ?_ (List.forall_mem_cons.trans (and_congr_right' ih.symm)).symm
    rw [List.flatten_cons, List.length_append, List.countP_cons]
    cases part with
    | nil => simp
    | cons a part =>
      simp only [List.isEmpty_cons, Bool.not_false, if_true, List.length_cons]
      omega

theorem length_flatMap_causes {failures : List Error} (single : ∀ e ∈ failures, e.isSingle) :
    (failures.flatMap Error.causes).length = failures.length := by
  induction failures with
  | nil => rfl
  | cons e rest ih =>
    obtain ⟨first, later⟩ := List.forall_mem_cons.1 single
    rw [List.flatMap_cons, List.length_append, Error.length_causes_of_isSingle first, ih later,
      List.length_cons, Nat.add_comm]

/-- What closing the root of a nest comes to. -/
structure Closed (nest : Nest) (w : World) (outcome : Except Error Unit) : Prop where
  ok_iff : outcome = .ok () ↔ ∀ leaf ∈ nest.leaves, failure? leaf.close w = none
  /-- The failure carries the failures of the leaves, all of them and nothing else. -/
  causes : ∀ e, outcome = .error e →
    e.causes = (failing nest.leaves w).flatMap Error.causes ∧
      e.causes.length = (failing nest.leaves w).length
  /-- The members of the root are counted under which some leaf fails. -/
  count : ∀ e, outcome = .error e →
    e.failureCount = nest.branches.countP fun branch => !(failing branch w).isEmpty
  /-- That is the number of leaves that fail as long as none of them fails beside another one. -/
  exact_iff : ∀ e, outcome = .error e →
    (e.failureCount = (failing nest.leaves w).length ↔
      ∀ branch ∈ nest.branches, (failing branch w).length ≤ 1)

/-- Closing a nest that was just built, over leaves that have nothing to do with each other: every
    failure of a leaf is carried to the root, and there the failing members are counted, not the
    failing leaves. -/
theorem close_counts_branches {nest : Nest} {root : Store} {w w₁ : World}
    (built : nest.build.run w = .ok root w₁) (apart : nest.leaves.Pairwise Apart)
    (older : ∀ s ∈ nest.leaves, Precedes w.pools.next s)
    (single : ∀ e ∈ failing nest.leaves w₁, e.isSingle) :
    Closed nest w₁ (outcome root.close w₁) := by
  have unclosed := ((takes_build nest).of_ok built).unclosed
  obtain ⟨ok_iff, causes, count⟩ :=
    (closes_build nest built (Nat.le_refl _) apart older).accounts w₁ unclosed
  rw [nest.flatten_branches] at ok_iff causes count
  have counted := fun e failed => count e failed single
  refine ⟨ok_iff.trans (by simp [failing]), fun e failed => ⟨causes e failed, ?_⟩, counted,
    fun e failed => ?_⟩
  · rw [causes e failed, length_flatMap_causes single]
  · have parts : failing nest.leaves w₁ = (nest.branches.map (failing · w₁)).flatten := by
      rw [← nest.flatten_branches, failing, List.filterMap_flatten]
      rfl
    have exact_iff := countP_eq_length_flatten_iff (nest.branches.map (failing · w₁))
    rw [← parts, List.countP_map, List.forall_mem_map] at exact_iff
    rw [counted e failed]
    exact exact_iff

/-- Three probes, each of which fails when it is closed. -/
def lossy : World :=
  let rules : List FaultRule := [{ op := .close, error := .backend "io" }]
  ((World.ruled { randomness := fun _ => 0 } ⟨0⟩ rules).ruled ⟨1⟩ rules).ruled ⟨2⟩ rules

def lossyProbe (index : Nat) : PlainStore := .probe ⟨index⟩ {}

/-- A store over two of the probes. -/
def pair : Nest :=
  .redundant (.quorum .any) (.offloaded ⟨0⟩) .nop
    [.leaf (lossyProbe 0).store, .leaf (lossyProbe 1).store]

/-- A pair that is the only copy of another store: two leaves fail, and one failure is counted. -/
theorem joined_below_counted_once :
    let nest := Nest.redundant (.quorum .any) (.offloaded ⟨0⟩) .nop [pair]
    ∃ root w e, nest.build.run lossy = .ok root w ∧ nest.leaves.Pairwise Apart ∧
      failing nest.leaves w = [.backend "io", .backend "io"] ∧
      outcome root.close w = .error e ∧ e.failureCount = 1 := by
  have apart : [lossyProbe 0, lossyProbe 1].Pairwise PlainStore.Apart := by decide
  exact ⟨_, _, _, rfl, List.pairwise_map.2 (apart.imp apart_plain), rfl, rfl, rfl⟩

/-- Beside the pair, the third probe is counted. -/
theorem close_counts_branches_beside_pair :
    let nest := Nest.sharded (fun _ => 0) [pair, .leaf (lossyProbe 2).store]
    ∃ root w e, nest.build.run lossy = .ok root w ∧ nest.leaves.Pairwise Apart ∧
      (∀ s ∈ nest.leaves, Precedes lossy.pools.next s) ∧
      (∀ e ∈ failing nest.leaves w, e.isSingle) ∧ Closed nest w (outcome root.close w) ∧
      outcome root.close w = .error e ∧ e.causes.length = 3 ∧ e.failureCount = 2 := by
  intro nest
  have leaves : nest.leaves = [lossyProbe 0, lossyProbe 1, lossyProbe 2].map PlainStore.store := rfl
  have plain : [lossyProbe 0, lossyProbe 1, lossyProbe 2].Pairwise PlainStore.Apart := by decide
  have apart : nest.leaves.Pairwise Apart := by
    rw [leaves]
    exact List.pairwise_map.2 (plain.imp apart_plain)
  have older : ∀ s ∈ nest.leaves, Precedes lossy.pools.next s := by
    rw [leaves]
    exact List.forall_mem_map.2 fun p _ => precedes_plain p _
  obtain ⟨root, w, built⟩ : ∃ root w, nest.build.run lossy = .ok root w := ⟨_, _, rfl⟩
  have single : ∀ e ∈ failing nest.leaves w, e.isSingle := by
    cases built
    decide
  have closed := close_counts_branches built apart older single
  obtain ⟨e, failed⟩ : ∃ e, outcome root.close w = .error e := by
    cases built
    exact ⟨_, rfl⟩
  refine ⟨root, w, e, built, apart, older, single, closed, failed, ?_, ?_⟩
  · rw [(closed.causes e failed).2]
    cases built
    rfl
  · rw [closed.count e failed]
    cases built
    rfl

end Nest

end StoreGraph
