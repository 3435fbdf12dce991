import Mathlib.Data.List.Nodup
import Mathlib.Logic.Function.Basic
import StoreGraph.Proofs.Frame
import StoreGraph.Proofs.Probe
import StoreGraph.Proofs.Shards.Access

/-! # Closing a pool of shards

A pool that opens its shards on demand closes the shards that are open when it is first closed, each
of them once, and says which of them failed. It does not close anything later on, so a shard that is
opened after that is never closed (`late_shard_stays_open`). The other shards are closed exactly
once, however often the pool is closed (`early_shards_close_once`).
-/

namespace StoreGraph

namespace ShardPool

/-- How often the store in a slot was closed can be told from the world. Nothing that the pool does
    itself counts, and closing a store does not touch the pool. -/
structure Counts (pool : ShardPool) (stock : Nat) (closeSlot : Slot → StoreM Unit)
    (closings : World → Slot → Nat) : Prop where
  closes : ∀ {slot}, Offers stock slot → ∀ w, closings (stateAfter (closeSlot slot) w) =
    Function.update (closings w) slot (closings w slot + 1)
  apart : ∀ {slot}, Offers stock slot →
    Moves (fun w w' => pool.stateIn w' = pool.stateIn w) (closeSlot slot)
  pools : ∀ w f, closings (w.changePool pool.state f) = closings w
  reports : ∀ w event, closings (w.reporting event) = closings w
  memories : ∀ w, closings w.withMemory = closings w

/-- At most, shards are opened. -/
structure Opens (pool : ShardPool) (stock : Nat) (closings : World → Slot → Nat)
    (w w' : World) : Prop where
  closed : (pool.stateIn w').closed = (pool.stateIn w).closed
  stays : ∀ {index slot}, (pool.stateIn w).slots.get? index = some slot →
    (pool.stateIn w').slots.get? index = some slot
  offered : ∀ {index slot}, (pool.stateIn w').slots.get? index = some slot →
    (pool.stateIn w).slots.get? index = some slot ∨ Offers stock slot
  closings : closings w' = closings w

/-- The runs of a pool, with the worlds in which it is closed. Visitors may use the shards and the
    pool, except that they close neither; and so may others between the calls. -/
inductive Ran (pool : ShardPool) (stock : Nat) (closeSlot : Slot → StoreM Unit)
    (closings : World → Slot → Nat) (start : World) : List World → World → Prop where
  | start : Ran pool stock closeSlot closings start [] start
  | get {closes w} (key : Bytes) (before : Ran pool stock closeSlot closings start closes w) :
      Ran pool stock closeSlot closings start closes
        (stateAfter (pool.slot stock (pool.owner key)) w)
  | iterate {closes w} {τ : Type} (visit : Slot → VisitM τ Unit) (t : τ)
      (before : Ran pool stock closeSlot closings start closes w)
      (visits : ∀ slot, Leaves (Opens pool stock closings) (visit slot)) :
      Ran pool stock closeSlot closings start closes
        (stateAfter (pool.iterate stock visit) (w, t)).1
  | use {closes w w'} (before : Ran pool stock closeSlot closings start closes w)
      (opens : Opens pool stock closings w w') : Ran pool stock closeSlot closings start closes w'
  | close {closes w} (before : Ran pool stock closeSlot closings start closes w) :
      Ran pool stock closeSlot closings start (closes ++ [w])
        (stateAfter (pool.close closeSlot) w)

/-- The failures of closing the stores in a list of slots, one after the other. -/
def closeFailures (closeSlot : Slot → StoreM Unit) : List (Nat × Slot) → World → List Error
  | [], _ => []
  | (index, slot) :: rest, w =>
    match (closeSlot slot).run w with
    | .ok _ w' => closeFailures closeSlot rest w'
    | .error e w' =>
      .context s!"close shard {index}" e :: closeFailures closeSlot rest w'

section Closing

variable {pool : ShardPool} {stock : Nat} {closeSlot : Slot → StoreM Unit}
  {closings : World → Slot → Nat} {fault : Nat → Nat → Option Error} {w w' : World}

/-! ## Opening shards -/

theorem frame_opens : Frame (Opens pool stock closings) where
  refl _ := ⟨rfl, id, .inl, rfl⟩
  trans first second := by
    refine ⟨second.closed.trans first.closed, fun found => second.stays (first.stays found), ?_,
      second.closings.trans first.closings⟩
    intro index slot found
    obtain before | offered := second.offered found
    · exact first.offered before
    · exact .inr offered

theorem opens_tried (counts : Counts pool stock closeSlot closings) (index : Nat) :
    Opens pool stock closings w (pool.tried index w) := by
  have state : pool.stateIn (pool.tried index w) =
      { pool.stateIn w with attempts := (pool.stateIn w).attempts ++ [index] } := stateIn_tried
  refine ⟨by rw [state], ?_, ?_, counts.pools w _⟩
  · intro other slot found
    rwa [state]
  · intro other slot found
    rw [state] at found
    exact .inl found

/-- A new shard is put into an empty slot. -/
theorem opens_places (counts : Counts pool stock closeSlot closings) {index : Nat} {slot : Slot}
    (unopened : (pool.stateIn w).slots.get? index = none)
    (places : Places pool stock index w slot w') : Opens pool stock closings w w' := by
  have same : closings w' = closings w := by
    cases places with
    | handed given => exact (counts.pools _ _).trans (counts.reports w _)
    | created own => exact (counts.pools _ _).trans ((counts.reports _ _).trans (counts.memories w))
  refine ⟨by rw [places.stateIn], ?_, ?_, same⟩
  · intro other there found
    have different : other ≠ index := by
      rintro rfl
      rw [unopened] at found
      cases found
    simpa [places.stateIn, SortedMap.get?_insert_of_ne _ different] using found
  · intro other there found
    simp only [places.stateIn, SortedMap.get?_insert] at found
    split at found
    · cases found
      exact .inr places.offered
    · exact .inl found

theorem opens_slot (onDemand : pool.opening = .onDemand fault)
    (counts : Counts pool stock closeSlot closings) (index : Nat) :
    Moves (Opens pool stock closings) (pool.slot stock index) := by
  intro w
  have reached := access onDemand stock index w
  generalize outcome (pool.slot stock index) w = answer at reached
  generalize stateAfter (pool.slot stock index) w = w' at reached ⊢
  cases reached with
  | found held => exact frame_opens.refl w
  | refused unopened fails => exact opens_tried counts index
  | opened unopened succeeds places =>
    have closed : (pool.stateIn (pool.tried index w)).slots.get? index = none := by
      simp [stateIn_tried, unopened]
    exact frame_opens.trans (opens_tried counts index) (opens_places counts closed places)

theorem opens_iterate (onDemand : pool.opening = .onDemand fault)
    (counts : Counts pool stock closeSlot closings) {τ : Type} {visit : Slot → VisitM τ Unit}
    (visits : ∀ slot, Leaves (Opens pool stock closings) (visit slot)) :
    Leaves (Opens pool stock closings) (pool.iterate stock visit) := by
  have frame : Frame fun s s' : World × τ => Opens pool stock closings s.1 s'.1 := frame_opens.world
  refine Moves.forM frame fun index _ => ?_
  exact Moves.bind frame (Moves.visiting (opens_slot onDemand counts index)) visits

/-! ## Closing -/

/-- Closing the stores in a list of slots closes each as often as it is listed, whatever fails. -/
theorem run_closeAll (counts : Counts pool stock closeSlot closings) {slots : List (Nat × Slot)}
    (offered : ∀ entry ∈ slots, Offers stock entry.2) (w : World) :
    ∃ w', (gatherFailures (slots.map fun (index, slot) =>
        (s!"close shard {index}", closeSlot slot))).run w =
          .ok (closeFailures closeSlot slots w) w' ∧
      pool.stateIn w' = pool.stateIn w ∧
      ∀ slot, closings w' slot = closings w slot + (slots.map (·.2)).count slot := by
  induction slots generalizing w with
  | nil => exact ⟨w, rfl, rfl, fun _ => rfl⟩
  | cons entry rest ih =>
    obtain ⟨index, slot⟩ := entry
    have here : Offers stock slot := offered (index, slot) List.mem_cons_self
    have closed := counts.closes here w
    have kept := counts.apart here w
    obtain ⟨w', run, state, counted⟩ :=
      ih (fun entry listed => offered entry (List.mem_cons_of_mem _ listed))
        (stateAfter (closeSlot slot) w)
    refine ⟨w', ?_, state.trans kept, fun other => ?_⟩
    · simp only [stateAfter] at run
      simp only [List.map_cons, gatherFailures, EStateM.run_bind, run_attempt, closeFailures]
      cases ran : (closeSlot slot).run w with
      | ok _ w₁ =>
        rw [ran] at run
        exact run
      | error e w₁ =>
        rw [ran] at run
        simp only [EStateM.run_bind, run, EStateM.run_pure]
    · rw [counted other, closed, List.map_cons, List.count_cons, Function.update_apply]
      by_cases same : other = slot
      · subst same
        simp only [if_true, beq_self_eq_true]
        omega
      · have different : ¬ slot = other := Ne.symm same
        simp only [if_neg same, beq_iff_eq, if_neg different, Nat.add_zero]

/-- The world in which the pool is marked as closed. -/
def marked (pool : ShardPool) (w : World) : World :=
  w.changePool pool.state ({ · with closed := true })

/-- The first time a pool is closed, every shard that is open is closed, and no shard is opened. -/
theorem close_first (onDemand : pool.opening = .onDemand fault)
    (counts : Counts pool stock closeSlot closings) (unclosed : (pool.stateIn w).closed = false)
    (offered : ∀ entry ∈ (pool.stateIn w).slots.entries, Offers stock entry.2) :
    outcome (pool.close closeSlot) w = Error.ofFailures
        (closeFailures closeSlot (pool.stateIn w).slots.entries (pool.marked w)) ∧
      pool.stateIn (stateAfter (pool.close closeSlot) w) =
        { pool.stateIn w with closed := true } ∧
      ∀ slot, closings (stateAfter (pool.close closeSlot) w) slot =
        closings w slot + ((pool.stateIn w).slots.entries.map (·.2)).count slot := by
  obtain ⟨w₁, gathered, state, counted⟩ := run_closeAll counts offered (pool.marked w)
  generalize closeFailures closeSlot (pool.stateIn w).slots.entries (pool.marked w) = failures
    at gathered ⊢
  let w₂ := w₁.reporting (.hashedPoolClosed failures.length)
  have run : (pool.close closeSlot).run w = (ofExcept (Error.ofFailures failures)).run w₂ := by
    have marking : (pool.update ({ · with closed := true })).run w = .ok () (pool.marked w) := rfl
    have reading : pool.read.run w = .ok (pool.stateIn w) w := rfl
    simp only [ShardPool.close, EStateM.run_bind, reading, unclosed, Bool.false_eq_true, if_false,
      marking, onDemand, gathered, StoreM.run_report]
    rfl
  have settled : stateAfter (pool.close closeSlot) w = w₂ ∧
      outcome (pool.close closeSlot) w = Error.ofFailures failures := by
    cases joined : Error.ofFailures failures with
    | ok _ =>
      rw [joined] at run
      exact ⟨stateAfter_ok run, outcome_ok run⟩
    | error e =>
      rw [joined] at run
      exact ⟨stateAfter_error run, outcome_error run⟩
  obtain ⟨stop, answer⟩ := settled
  rw [stop]
  refine ⟨answer, ?_, fun slot => ?_⟩
  · exact state.trans (stateIn_changePool w _)
  · rw [counts.reports, counted slot, marked, counts.pools]

/-- Closing a pool again does nothing. -/
theorem close_again (closed : (pool.stateIn w).closed = true) :
    (pool.close closeSlot).run w = .ok () w := by
  simp only [ShardPool.close, ShardPool.read, EStateM.run_bind, EStateM.run_get, EStateM.run_pure]
  rw [stateIn] at closed
  simp only [closed, if_true, EStateM.run_pure]

/-! ## Runs -/

section Runs

variable {start first : World} {closes later : List World}

/-- Shards are at most opened before the pool is first closed, and after that again. -/
def Course (pool : ShardPool) (stock : Nat) (closeSlot : Slot → StoreM Unit)
    (closings : World → Slot → Nat) (start : World) : List World → World → Prop
  | [], w => Opens pool stock closings start w
  | first :: later, w => Opens pool stock closings start first ∧
    Opens pool stock closings (stateAfter (pool.close closeSlot) first) w ∧
    ∀ w' ∈ later, (pool.stateIn w').closed = true

theorem Course.opens (course : Course pool stock closeSlot closings start closes w)
    (opens : Opens pool stock closings w w') :
    Course pool stock closeSlot closings start closes w' := by
  cases closes with
  | nil => exact frame_opens.trans course opens
  | cons first later =>
    obtain ⟨before, since, closed⟩ := course
    exact ⟨before, frame_opens.trans since opens, closed⟩

/-- As long as a new pool was not closed, all its shards are offered ones. -/
theorem offered_of_opens (fresh : pool.stateIn start = {})
    (opens : Opens pool stock closings start w) :
    (pool.stateIn w).closed = false ∧
      ∀ entry ∈ (pool.stateIn w).slots.entries, Offers stock entry.2 := by
  constructor
  · rw [opens.closed, fresh]
  · rintro ⟨index, slot⟩ listed
    obtain before | offered := opens.offered ((SortedMap.mem_entries_iff _).mp listed)
    · rw [fresh, SortedMap.get?_empty] at before
      cases before
    · exact offered

theorem Ran.course (onDemand : pool.opening = .onDemand fault)
    (counts : Counts pool stock closeSlot closings) (fresh : pool.stateIn start = {})
    (ran : Ran pool stock closeSlot closings start closes w) :
    Course pool stock closeSlot closings start closes w := by
  induction ran with
  | start => exact frame_opens.refl start
  | @get closes w key before ih => exact ih.opens (opens_slot onDemand counts _ w)
  | @iterate closes w τ visit t before visits ih =>
    exact ih.opens (opens_iterate onDemand counts visits (w, t))
  | use before opens ih => exact ih.opens opens
  | @close closes w before ih =>
    cases closes with
    | nil => exact ⟨ih, frame_opens.refl _, List.forall_mem_nil _⟩
    | cons first later =>
      obtain ⟨early, since, closed⟩ := ih
      obtain ⟨unclosed, offered⟩ := offered_of_opens fresh early
      obtain ⟨-, state, -⟩ := close_first onDemand counts unclosed offered
      have again : (pool.stateIn w).closed = true := by rw [since.closed, state]
      rw [stateAfter_ok (close_again again)]
      refine ⟨early, since, ?_⟩
      intro w' listed
      obtain before | last := List.mem_append.mp listed
      · exact closed w' before
      · rw [List.mem_singleton.mp last]
        exact again

/-- The stores of different shards are listed once each. -/
theorem nodup_slots {slots : SortedMap Nat Slot}
    (apart : ∀ {i j slot}, slots.get? i = some slot → slots.get? j = some slot → i = j) :
    (slots.entries.map (·.2)).Nodup := by
  have keys : (slots.entries.map (·.1)).Nodup := slots.keys_nodup
  refine List.Nodup.map_on ?_ keys.of_map
  rintro ⟨i, slot⟩ first ⟨j, _⟩ second rfl
  rw [apart ((SortedMap.mem_entries_iff _).mp first) ((SortedMap.mem_entries_iff _).mp second)]

/-- In a run of a new pool, let no two shards have the same store. Every shard that is open when the
    pool is first closed is closed exactly once, by this call, which answers with the failures in
    the order of the shards; no other store is closed. Closing again does nothing, and no shard is
    opened by closing. So every shard that was opened has been closed exactly once unless one was
    opened after the pool had been closed. -/
theorem early_shards_close_once (onDemand : pool.opening = .onDemand fault)
    (counts : Counts pool stock closeSlot closings) (fresh : pool.stateIn start = {})
    (ran : Ran pool stock closeSlot closings start (first :: later) w)
    (apart : ∀ {i j slot}, (pool.stateIn w).slots.get? i = some slot →
      (pool.stateIn w).slots.get? j = some slot → i = j) :
    (∀ index slot, (pool.stateIn first).slots.get? index = some slot →
        closings w slot = closings start slot + 1) ∧
      (∀ slot, (∀ index, (pool.stateIn first).slots.get? index ≠ some slot) →
        closings w slot = closings start slot) ∧
      outcome (pool.close closeSlot) first = Error.ofFailures
        (closeFailures closeSlot (pool.stateIn first).slots.entries (pool.marked first)) ∧
      (∀ w' ∈ later, (pool.close closeSlot).run w' = .ok () w') ∧
      (∀ w' ∈ first :: later, pool.stateIn (stateAfter (pool.close closeSlot) w') =
        { pool.stateIn w' with closed := true }) ∧
      ((∀ index slot, (pool.stateIn w).slots.get? index = some slot →
          closings w slot = closings start slot + 1) ↔
        ∀ index slot, (pool.stateIn w).slots.get? index = some slot →
          (pool.stateIn first).slots.get? index = some slot) := by
  obtain ⟨early, since, closed⟩ := ran.course onDemand counts fresh
  obtain ⟨unclosed, offered⟩ := offered_of_opens fresh early
  obtain ⟨answer, state, counted⟩ := close_first onDemand counts unclosed offered
  have stays : ∀ {index slot}, (pool.stateIn first).slots.get? index = some slot →
      (pool.stateIn w).slots.get? index = some slot := by
    intro index slot found
    refine since.stays ?_
    rw [state]
    exact found
  have tally : ∀ slot, closings w slot = closings start slot +
      ((pool.stateIn first).slots.entries.map (·.2)).count slot := by
    intro slot
    rw [since.closings, counted, early.closings]
  have once : ∀ index slot, (pool.stateIn first).slots.get? index = some slot →
      closings w slot = closings start slot + 1 := by
    intro index slot found
    have listed := List.mem_map_of_mem (f := (·.2)) ((SortedMap.mem_entries_iff _).mpr found)
    have nodup := nodup_slots fun one two => apart (stays one) (stays two)
    rw [tally, List.count_eq_one_of_mem nodup listed]
  have never : ∀ slot, (∀ index, (pool.stateIn first).slots.get? index ≠ some slot) →
      closings w slot = closings start slot := by
    intro slot absent
    rw [tally, List.count_eq_zero_of_not_mem, Nat.add_zero]
    intro listed
    obtain ⟨⟨index, slot⟩, entry, rfl⟩ := List.mem_map.mp listed
    exact absent index ((SortedMap.mem_entries_iff _).mp entry)
  refine ⟨once, never, answer, fun w' listed => close_again (closed w' listed), ?_, ?_, ?_⟩
  · intro w' listed
    obtain rfl | listed := List.mem_cons.mp listed
    · exact state
    · have again := closed w' listed
      rw [stateAfter_ok (close_again again), ← again]
  · intro all index slot found
    by_contra late
    have absent : ∀ other, (pool.stateIn first).slots.get? other ≠ some slot := by
      intro other there
      rw [apart (stays there) found] at there
      exact late there
    have more := all index slot found
    rw [never slot absent] at more
    exact Nat.succ_ne_self _ more.symm
  · exact fun all index slot found => once index slot (all index slot found)

end Runs

/-! ## A shard that is opened after its pool was closed -/

/-- Close the store in a slot. -/
def closeIn (stock : List Store) (slot : Slot) : StoreM Unit :=
  (slot.choose stock Store.memory Store.nop).close

/-- Closing a sharded store closes its pool. -/
theorem close_sharded (pool : ShardPool) (stock : List Store) :
    (Store.sharded pool stock).close = pool.close (closeIn stock) := by
  have each : ∀ slot : Slot,
      (slot.choose (Store.storages stock) Storage.memory Storage.nop).close =
        closeIn stock slot := by
    rintro (position | cell)
    · rw [closeIn, Slot.choose, Slot.choose, Store.storages_eq_map, List.getElem?_map]
      cases stock[position]? <;> rfl
    · rfl
  exact congrArg pool.close (funext each)

def probesUpTo (n : Nat) : List Store := (List.range n).map fun i => .probe ⟨i⟩ {}

/-- How often the probe in a slot recorded that it was closed. -/
def closeCalls (w : World) : Slot → Nat
  | .stocked position => (w.probes.get ⟨position⟩).calls.count .close
  | .fresh _ => 0

theorem calls_entered (w : World) (cell cell' : Ref .probe) (call : Call) :
    ((w.entered cell call).probes.get cell').calls =
      if cell' = cell then (w.probes.get cell).calls ++ [call] else (w.probes.get cell').calls := by
  simp only [World.entered, World.ruled, World.changeProbe, Table.modify, Table.get_set, if_true]
  split <;> rfl

theorem counts_probes (pool : ShardPool) {n : Nat} (some : n ≠ 0) :
    Counts pool n (closeIn (probesUpTo n)) closeCalls := by
  have run : ∀ {slot}, Offers n slot → ∃ position, slot = .stocked position ∧
      ∀ w, stateAfter (closeIn (probesUpTo n) slot) w = w.entered ⟨position⟩ .close := by
    rintro (position | cell) offered
    · refine ⟨position, rfl, fun w => ?_⟩
      have probe : closeIn (probesUpTo n) (.stocked position) = Probe.enter ⟨position⟩ .close := by
        have inside : (probesUpTo n)[position]? = .some (.probe ⟨position⟩ {}) := by
          rw [probesUpTo, List.getElem?_map, List.getElem?_range offered]
          rfl
        rw [closeIn, Slot.choose, inside]
        rfl
      rw [probe, stateAfter, Probe.run_enter]
      cases w.fault? ⟨position⟩ .close <;> rfl
    · exact absurd offered some
  refine ⟨?_, ?_, fun _ _ => rfl, fun _ _ => rfl, fun _ => rfl⟩
  · intro slot offered w
    obtain ⟨position, rfl, after⟩ := run offered
    rw [after]
    funext other
    rw [Function.update_apply]
    cases other with
    | fresh cell => rfl
    | stocked other =>
      rw [closeCalls, calls_entered]
      by_cases same : other = position
      · subst same
        simp [closeCalls, List.count_append]
      · simp [closeCalls, same]
  · intro slot offered w
    obtain ⟨position, rfl, after⟩ := run offered
    rw [after]
    rfl

end Closing

/-- A pool of two shards, which are opened without fail. -/
def twoShards : ShardPool where
  state := ⟨0⟩
  hash key := UInt32.ofNat key.length
  count := 2
  opening := .onDemand fun _ _ => none

/-- The store of the first shard refuses to be closed. -/
def reluctantToClose : World where
  randomness _ := 0
  probes :=
    { cells := SortedMap.empty.insert 0 { rules := [{ op := .close, error := .backend "io" }] } }

def firstOpened : World := stateAfter (twoShards.slot 2 (twoShards.owner [])) reluctantToClose

def onceClosed : World := stateAfter (twoShards.close (closeIn (probesUpTo 2))) firstOpened

def secondOpened : World := stateAfter (twoShards.slot 2 (twoShards.owner [7])) onceClosed

def closedAgain : World := stateAfter (twoShards.close (closeIn (probesUpTo 2))) secondOpened

theorem ran_closedAgain : Ran twoShards 2 (closeIn (probesUpTo 2)) closeCalls reluctantToClose
    [firstOpened, secondOpened] closedAgain :=
  .close (.get [7] (.close (.get [] .start)))

/-- A shard is opened between two closings of its pool, and nothing ever closes it. -/
theorem late_shard_stays_open :
    Ran twoShards 2 (closeIn (probesUpTo 2)) closeCalls reluctantToClose
        [firstOpened, secondOpened] closedAgain ∧
      twoShards.stateIn reluctantToClose = {} ∧
      (twoShards.stateIn closedAgain).slots.get? 1 = some (.stocked 1) ∧
      (Store.sharded twoShards (probesUpTo 2)).close.run secondOpened = .ok () closedAgain ∧
      closeCalls closedAgain (.stocked 1) = 0 :=
  ⟨ran_closedAgain, rfl, rfl, by rw [close_sharded]; rfl, rfl⟩

theorem early_shards_close_once_refusing :
    closeCalls closedAgain (.stocked 0) = 1 ∧ closeCalls closedAgain (.stocked 1) = 0 ∧
      outcome (twoShards.close (closeIn (probesUpTo 2))) firstOpened =
        .error (.context "close shard 0" (.backend "io")) := by
  have placed : ∀ {i slot}, (twoShards.stateIn closedAgain).slots.get? i = some slot →
      slot = .stocked i := by
    intro i slot found
    have listed : (i, slot) ∈ [(0, Slot.stocked 0), (1, Slot.stocked 1)] :=
      (SortedMap.mem_entries_iff (twoShards.stateIn closedAgain).slots).mpr found
    simp only [List.mem_cons, Prod.mk.injEq, List.not_mem_nil, or_false] at listed
    obtain ⟨rfl, rfl⟩ | ⟨rfl, rfl⟩ := listed <;> rfl
  have apart : ∀ {i j slot}, (twoShards.stateIn closedAgain).slots.get? i = some slot →
      (twoShards.stateIn closedAgain).slots.get? j = some slot → i = j :=
    fun first second => Slot.stocked.inj ((placed first).symm.trans (placed second))
  obtain ⟨once, never, answer, -⟩ :=
    early_shards_close_once rfl (counts_probes twoShards (by decide)) rfl ran_closedAgain apart
  refine ⟨once 0 _ rfl, never _ fun index found => ?_, answer⟩
  have listed : (index, Slot.stocked 1) ∈ [(0, Slot.stocked 0)] :=
    (SortedMap.mem_entries_iff (twoShards.stateIn firstOpened).slots).mpr found
  simp at listed

end ShardPool

end StoreGraph
