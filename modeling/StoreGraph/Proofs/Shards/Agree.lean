import StoreGraph.Proofs.Matching
import StoreGraph.Store

/-! # Worlds that differ in one pool

Two worlds agree but for one pool if they differ only in the state of this pool and in what was
reported. All that other stores do is the same in both: their cells are the same, and no store looks
at what was reported (`Store.Blind.matches_storage`).
-/

namespace StoreGraph

/-- Every shard that is open is at the position of its own number. -/
def InPlace (s : PoolState) : Prop :=
  ∀ index slot, s.slots.get? index = some slot → slot = .stocked index

/-- The worlds differ at most in the state of one pool and in what was reported. In the second one,
    the shards of the pool are in place. -/
inductive Agree (cell : Ref .pool) (w : World) : World → Prop where
  | intro {pools events} (next : pools.next = w.pools.next)
      (others : ∀ other, other ≠ cell → pools.get other = w.pools.get other)
      (opened : InPlace (pools.get cell)) :
      Agree cell w { w with pools, events }

/-- A policy does the same with calls that do the same. -/
structure ReplicaPolicy.Blind (cell : Ref .pool) (policy : ReplicaPolicy) : Prop where
  write : ∀ {xs ys}, List.Forall₂ (Matches (Agree cell)) xs ys →
    Matches (Agree cell) (policy.write xs) (policy.write ys)
  read : ∀ {xs ys}, List.Forall₂ (Matches (Agree cell)) xs ys →
    Matches (Agree cell) (policy.read xs) (policy.read ys)

/-- The pool is none of those that the store is built over, and so nothing in it looks at its
    state. -/
inductive Store.Blind (cell : Ref .pool) : Store → Prop where
  | memory {own} : Blind cell (.memory own)
  | nop : Blind cell .nop
  | probe {own traits} : Blind cell (.probe own traits)
  | sharded {pool stock} (other : pool.state ≠ cell) (shards : ∀ s ∈ stock, Blind cell s) :
      Blind cell (.sharded pool stock)
  | redundant {policy : ReplicaPolicy} {backs dedup offload} (decides : policy.Blind cell)
      (copies : ∀ s ∈ backs, Blind cell s) (remembers : Blind cell offload) :
      Blind cell (.redundant policy backs dedup offload)

variable {cell : Ref .pool}

namespace Agree

variable {α : Type}

/-- What does not look at pools or at reports reads the same. -/
theorem read {f : World → α} (blind : ∀ w pools events, f { w with pools, events } = f w) :
    Matches (Agree cell) (do return f (← get) : StoreM α) (do return f (← get)) := by
  rintro w _ ⟨next, others, opened⟩
  exact .ok rfl (congrArg (EStateM.Result.ok · _) (blind w _ _)) (.intro next others opened)

/-- A change that has nothing to do with pools or reports is the same change. -/
theorem change {g : World → World}
    (blind : ∀ w pools events, g { w with pools, events } = { g w with pools, events }) :
    Matches (Agree cell) (modify g : StoreM Unit) (modify g) := by
  rintro w _ ⟨next, others, opened⟩
  have pools : (g w).pools = w.pools := by
    have same := congrArg World.pools (blind w w.pools w.events)
    exact same
  rw [← pools] at next others
  exact .ok rfl (congrArg (EStateM.Result.ok ()) (blind w _ _)) (.intro next others opened)

theorem report (event : Event) :
    Matches (Agree cell) (StoreM.report event) (StoreM.report event) := by
  rintro w _ ⟨next, others, opened⟩
  exact .ok rfl rfl (.intro next others opened)

theorem count (f : Counters → Counters) :
    Matches (Agree cell) (StoreM.count f) (StoreM.count f) :=
  change fun _ _ _ => rfl

theorem draw : Matches (Agree cell) StoreM.draw StoreM.draw := by
  rintro w _ ⟨next, others, opened⟩
  exact .ok rfl rfl (.intro next others opened)

theorem create : Matches (Agree cell) Memory.create Memory.create := by
  rintro w _ ⟨next, others, opened⟩
  exact .ok rfl rfl (.intro next others opened)

/-- The state of another pool is the same, and changes in the same way. -/
theorem readPool {pool : ShardPool} (other : pool.state ≠ cell) :
    Matches (Agree cell) pool.read pool.read := by
  rintro w _ ⟨next, others, opened⟩
  exact .ok rfl (congrArg (EStateM.Result.ok · _) (others _ other)) (.intro next others opened)

theorem updatePool {pool : ShardPool} (other : pool.state ≠ cell) (f : PoolState → PoolState) :
    Matches (Agree cell) (pool.update f) (pool.update f) := by
  intro w _ agree
  cases agree with
  | @intro pools events next others opened =>
    have others' : ∀ third, third ≠ cell →
        (pools.modify pool.state f).get third = (w.pools.modify pool.state f).get third := by
      intro third different
      simp only [Table.modify, Table.get_set, others _ other]
      split
      · rfl
      · exact others third different
    refine .ok rfl rfl (.intro next others' ?_)
    rw [Table.modify, Table.get_set_of_ne _ (Ne.symm other)]
    exact opened

end Agree

/-! ## Plain stores -/

theorem matches_memory (own : Ref .memory) :
    Storage.Matches (Agree cell) (.memory own) (.memory own) where
  put key value := Agree.change fun _ _ _ => rfl
  get key := by
    refine .bind (Agree.read fun _ _ _ => rfl) fun m => ?_
    split
    · exact .pure _
    · exact .throw _
  del key := Agree.change fun _ _ _ => rfl
  keys visits :=
    .bind (.visiting (Agree.read fun _ _ _ => rfl)) fun _ => .forM fun key _ => visits key
  clear := .some (Agree.change fun _ _ _ => rfl)

theorem matches_nop : Storage.Matches (Agree cell) .nop .nop where
  put _ _ := .pure ()
  get _ := .throw _
  del _ := .pure ()
  keys _ := .pure ()
  clear := .none

section Probes

variable (own : Ref .probe)

theorem Agree.updateProbe (f : Probe → Probe) :
    Matches (Agree cell) (Probe.update own f) (Probe.update own f) :=
  Agree.change fun _ _ _ => rfl

theorem Agree.readProbe : Matches (Agree cell) (Probe.read own) (Probe.read own) :=
  Agree.read fun _ _ _ => rfl

theorem Agree.consult (op : ProbeOp) (key : Option Bytes) :
    Matches (Agree cell) (Probe.consult own op key) (Probe.consult own op key) := by
  refine .bind (Agree.readProbe own) fun p => .bind (Agree.updateProbe own _) fun _ => ?_
  cases (FaultRule.consult op key p.rules).1 with
  | some e => exact .throw e
  | none => exact .pure ()

theorem Agree.enter (call : Call) :
    Matches (Agree cell) (Probe.enter own call) (Probe.enter own call) :=
  .bind (Agree.updateProbe own _) fun _ => Agree.consult own _ _

theorem matches_probe (traits : ProbeTraits) :
    Storage.Matches (Agree cell) (.probe own traits) (.probe own traits) where
  put key value := .bind (Agree.enter own _) fun _ => Agree.updateProbe own _
  get key := by
    refine .bind (Agree.enter own _) fun _ => .bind (Agree.readProbe own) fun p => ?_
    split
    · exact .pure _
    · exact .throw _
  del key := .bind (Agree.enter own _) fun _ => Agree.updateProbe own _
  keys visits := by
    refine .bind (.visiting (Agree.enter own _)) fun _ =>
      .bind (.visiting (Agree.readProbe own)) fun p =>
        .forM fun key _ => .bind (.visiting (Agree.consult own _ _)) fun _ => ?_
    split
    · exact .bind (visits key).attempt fun _ => .pure _
    · exact visits key
  clear := by
    change Option.Rel _ (if traits.clearable then some _ else none)
      (if traits.clearable then some _ else none)
    split
    · exact .some (Matches.bind (Agree.enter own _) fun _ => Agree.updateProbe own _)
    · exact .none

end Probes

/-! ## Sharded stores -/

section Sharded

variable {pool : ShardPool}

theorem Agree.openShard (other : pool.state ≠ cell) (stock index : Nat)
    (fault : Nat → Nat → Option Error) :
    Matches (Agree cell) (pool.openShard stock index fault) (pool.openShard stock index fault) := by
  refine .bind (Agree.readPool other) fun state => .bind (Agree.updatePool other _) fun _ => ?_
  split
  · exact .throw _
  · dsimp only
    split
    · exact .bind (.map Agree.create _) fun slot => .bind (Agree.report _) fun _ =>
        .bind (Agree.updatePool other _) fun _ => .pure slot
    · exact .bind (.pure _) fun slot => .bind (Agree.report _) fun _ =>
        .bind (Agree.updatePool other _) fun _ => .pure slot

theorem Agree.slot (other : pool.state ≠ cell) (stock index : Nat) :
    Matches (Agree cell) (pool.slot stock index) (pool.slot stock index) := by
  unfold ShardPool.slot
  split
  · exact .pure _
  · refine .bind (Agree.readPool other) fun state => ?_
    split
    · exact .pure _
    · exact Agree.openShard other stock index _

/-- The store in a slot is one of the given ones or has a memory cell of its own. -/
theorem matches_choose {R : World → World → Prop} {stock : List Storage} (slot : Slot)
    (each : ∀ s ∈ stock, s.Matches R s)
    (memory : ∀ own, (Storage.memory own).Matches R (.memory own))
    (nop : Storage.nop.Matches R .nop) :
    (slot.choose stock .memory .nop).Matches R (slot.choose stock .memory .nop) := by
  cases slot with
  | fresh own => exact memory own
  | stocked position =>
    rw [Slot.choose]
    cases held : stock[position]? with
    | none => exact nop
    | some s => exact each s (List.mem_of_getElem? held)

theorem matches_sharded (other : pool.state ≠ cell) {stock : List Storage}
    (each : ∀ s ∈ stock, s.Matches (Agree cell) s) :
    Storage.Matches (Agree cell) (.sharded pool stock) (.sharded pool stock) :=
  have chosen (slot : Slot) := matches_choose slot each matches_memory matches_nop
  { put := fun key value => .bind (Agree.slot other _ _) fun slot => (chosen slot).put key value
    get := fun key => .bind (Agree.slot other _ _) fun slot => (chosen slot).get key
    del := fun key => .bind (Agree.slot other _ _) fun slot => (chosen slot).del key
    keys := fun visits => .forM fun _ _ =>
      .bind (.visiting (Agree.slot other _ _)) fun slot => (chosen slot).keys visits
    clear := .none }

end Sharded

/-! ## Redundant stores -/

section Dedups

variable {offload : Storage} (same : offload.Matches (Agree cell) offload) (ages : Ref .ages)

theorem Agree.readAges :
    Matches (Agree cell) (DedupScheme.readAges ages) (DedupScheme.readAges ages) :=
  Agree.read fun _ _ _ => rfl

theorem Agree.updateAges (f : KeyAges → KeyAges) :
    Matches (Agree cell) (DedupScheme.updateAges ages f) (DedupScheme.updateAges ages f) :=
  Agree.change fun _ _ _ => rfl

theorem Agree.readToken (token : Ref .token) :
    Matches (Agree cell) (DedupScheme.readToken token) (DedupScheme.readToken token) :=
  Agree.read fun _ _ _ => rfl

include same

theorem Agree.dropOldest (n : Nat) :
    Matches (Agree cell) (DedupScheme.dropOldest ages offload n)
      (DedupScheme.dropOldest ages offload n) := by
  induction n with
  | zero => exact .pure 0
  | succ n ih =>
    refine .bind (Agree.readAges ages) fun known => ?_
    split
    · exact .pure 0
    · exact .bind (same.del _) fun _ => .bind (Agree.updateAges ages _) fun _ =>
        .bind ih fun dropped => .pure _

theorem Agree.evict (limits : KeepLimits) :
    Matches (Agree cell) (DedupScheme.evict ages limits offload)
      (DedupScheme.evict ages limits offload) :=
  .bind (Agree.readAges ages) fun _ => .bind (Agree.dropOldest same ages _) fun _ =>
    .bind (Agree.readAges ages) fun _ => .bind (Agree.report _) fun _ => Agree.count _

variable (dedup : DedupScheme)

theorem Agree.isSaved (key : Bytes) :
    Matches (Agree cell) (dedup.isSaved offload key) (dedup.isSaved offload key) := by
  cases dedup with
  | naive ages limits => exact same.contains key
  | offloaded token =>
    refine .bind (same.find key) fun found => ?_
    split
    · exact .bind (Agree.readToken token) fun current => .pure _
    · exact .pure false

theorem Agree.save (key : Bytes) :
    Matches (Agree cell) (dedup.save offload key) (dedup.save offload key) := by
  cases dedup with
  | naive ages limits =>
    refine .bind (Agree.readAges ages) fun known => .bind (same.put _ _) fun _ =>
      .bind (Agree.updateAges ages _) fun _ => .bind (Agree.readAges ages) fun now => ?_
    split
    · exact Agree.evict same ages limits
    · exact .pure ()
  | offloaded token => exact .bind (Agree.readToken token) fun current => same.put _ _

theorem Agree.clear :
    Matches (Agree cell) (dedup.clear offload) (dedup.clear offload) := by
  cases dedup with
  | naive ages limits => exact .pure ()
  | offloaded token =>
    unfold DedupScheme.clear
    have clears := same.clear
    generalize offload.clear? = clear? at clears
    cases clears with
    | none => exact .pure ()
    | some clears => exact clears

omit same in
theorem Agree.reset : Matches (Agree cell) dedup.reset dedup.reset := by
  cases dedup with
  | naive ages limits => exact .pure ()
  | offloaded token =>
    exact .bind (Agree.readToken token) fun previous => .bind Agree.draw fun drawn =>
      .bind (Agree.change fun _ _ _ => rfl) fun _ => Agree.report _

end Dedups

section Redundant

variable {τ : Type} {offload : Storage} (same : offload.Matches (Agree cell) offload)
  (dedup : DedupScheme) {visit visit' : Bytes → VisitM τ Unit}
  (visits : ∀ key, Matches (Alongside (Agree cell)) (visit key) (visit' key))

include same visits

theorem Agree.visitOnce (key : Bytes) :
    Matches (Alongside (Agree cell)) (Storage.visitOnce offload dedup visit key)
      (Storage.visitOnce offload dedup visit' key) := by
  unfold Storage.visitOnce
  refine .bind (.attempt ?_) fun outcome => .bind (.note _) fun _ => .ofExcept outcome
  refine .bind (.visiting (Agree.isSaved same dedup key)) fun saved => ?_
  split
  · exact .pure ()
  · exact .bind (.visiting (Agree.save same dedup key)) fun _ => .besides (visits key)

theorem Agree.sweep {backs : List (String × Storage)}
    (each : ∀ back ∈ backs, back.2.Matches (Agree cell) back.2) :
    Matches (Alongside (Agree cell)) (Storage.sweep offload dedup visit backs)
      (Storage.sweep offload dedup visit' backs) := by
  induction backs with
  | nil => exact .pure _
  | cons back rest ih =>
    have later := ih fun back listed => each back (List.mem_cons_of_mem _ listed)
    have first := (each back List.mem_cons_self).keys (Agree.visitOnce same dedup visits)
    refine .bind (.withState false first) fun (ended, stopped) => ?_
    cases ended with
    | ok _ => exact later
    | error e =>
      cases stopped with
      | true => exact .pure _
      | false => exact .bind later fun swept => .pure _

end Redundant

theorem matches_redundant {policy : ReplicaPolicy} (decides : policy.Blind cell)
    {backs : List Storage} (each : ∀ s ∈ backs, s.Matches (Agree cell) s) (dedup : DedupScheme)
    {offload : Storage} (same : offload.Matches (Agree cell) offload) :
    Storage.Matches (Agree cell) (.redundant policy backs dedup offload)
      (.redundant policy backs dedup offload) := by
  have calls {α : Type} {call : Storage → StoreM α}
      (every : ∀ s ∈ backs, Matches (Agree cell) (call s) (call s)) :
      List.Forall₂ (Matches (Agree cell)) (backs.map call) (backs.map call) := by
    rw [List.forall₂_map_left_iff, List.forall₂_map_right_iff, List.forall₂_same]
    exact every
  exact
    { put := fun key value => decides.write (calls fun s listed => (each s listed).put key value)
      get := fun key => decides.read (calls fun s listed => (each s listed).get key)
      del := fun key =>
        .bind (.gatherFailures
            (Matches.forall₂_numbered _ (calls fun s listed => (each s listed).del key)))
          fun _ => .ofExcept _
      keys := fun visits => by
        refine .bind (Agree.sweep same dedup visits fun back listed => ?_) fun swept =>
          .bind (.visiting (.gatherFailures (.cons ⟨rfl, Agree.clear same dedup⟩ .nil)))
            fun cleared => .bind (.visiting (Agree.reset dedup)) fun _ => ?_
        · obtain ⟨position, given, rfl⟩ := List.mem_map.1 listed
          exact each position.1 (List.fst_mem_of_mem_zipIdx given)
        · split
          · exact .throw _
          · exact .ofExcept _
      clear := .none }

/-- A store that is not built over the pool does the same in worlds that differ in the pool only. -/
theorem Store.Blind.matches_storage {s : Store} (blind : s.Blind cell) :
    s.storage.Matches (Agree cell) s.storage := by
  have every {stores : List Store} (each : ∀ s ∈ stores, s.storage.Matches (Agree cell) s.storage) :
      ∀ s ∈ Store.storages stores, s.Matches (Agree cell) s := by
    intro _ listed
    rw [Store.storages_eq_map] at listed
    obtain ⟨s, given, rfl⟩ := List.mem_map.1 listed
    exact each s given
  induction blind with
  | memory => exact matches_memory _
  | nop => exact matches_nop
  | probe => exact matches_probe _ _
  | sharded other _ shards => exact matches_sharded other (every shards)
  | redundant decides _ _ copies remembers =>
    exact matches_redundant decides (every copies) _ remembers

/-- A quorum does not look beyond the calls that it is given. -/
theorem blind_quorum (demand : Quorum) : (ReplicaPolicy.quorum demand).Blind cell where
  write := by
    intro xs ys each
    refine .bind (.gatherFailures (Matches.forall₂_numbered _ each)) fun failures => ?_
    rw [each.length_eq]
    dsimp only
    split
    · exact .throw _
    · split
      · exact .bind (Agree.report _) fun _ => Agree.count _
      · exact .pure ()
  read := by
    intro xs ys each
    change Matches _ (firstHitAfter [] xs) (firstHitAfter [] ys)
    generalize ([] : List Error) = failures
    induction each generalizing failures with
    | nil => exact .throw _
    | cons first _ ih =>
      refine .bind first.attempt fun outcome => ?_
      cases outcome with
      | ok value => exact .pure value
      | error e => exact ih (failures ++ [e])

end StoreGraph
