import StoreGraph.Proofs.Shards.Opening

/-! # Absent keys and shards that are not open

A store that is sharded over memory cells says that a key is not found when the shard that owns the
key is open and does not hold it. It says the same, under one more context, when the shard cannot be
opened because something else was not found, although nothing is known about the key then. These are
the only two occasions (`not_found_iff_absent_or_unavailable`).
-/

namespace StoreGraph

namespace ShardPool

/-- What is done with a sharded store, from one world to another. Visitors may do all of this, too,
    and in between anything happens that leaves the state of the pool alone. -/
inductive Operates (pool : ShardPool) (stock : List Store) : World → World → Prop where
  | put (w) (key value : Bytes) :
      Operates pool stock w (stateAfter ((Store.sharded pool stock).put key value) w)
  | get (w) (key : Bytes) :
      Operates pool stock w (stateAfter ((Store.sharded pool stock).get key) w)
  | del (w) (key : Bytes) :
      Operates pool stock w (stateAfter ((Store.sharded pool stock).del key) w)
  | contains (w) (key : Bytes) :
      Operates pool stock w (stateAfter ((Store.sharded pool stock).contains key) w)
  | keys {τ : Type} {visit : Bytes → VisitM τ Unit} (s : World × τ)
      (visits : ∀ key s, Operates pool stock s.1 (stateAfter (visit key) s).1) :
      Operates pool stock s.1 (stateAfter ((Store.sharded pool stock).keys visit) s).1
  | close (w) : Operates pool stock w (stateAfter (Store.sharded pool stock).close w)
  | aside {w w'} (same : pool.stateIn w' = pool.stateIn w) : Operates pool stock w w'
  | seq {w₁ w₂ w₃} (first : Operates pool stock w₁ w₂) (second : Operates pool stock w₂ w₃) :
      Operates pool stock w₁ w₃

/-- The shard that owns a key is open, and over a memory cell. -/
def OpenAt (pool : ShardPool) (stock : List Store) (w : World) (key : Bytes)
    (cell : Ref .memory) : Prop :=
  ∃ slot, (pool.stateIn w).slots.get? (pool.owner key) = some slot ∧
    slot.choose stock .memory .nop = .memory cell

/-- The shard that owns a key is open, and does not hold the key. -/
def Absent (pool : ShardPool) (stock : List Store) (w : World) (key : Bytes) : Prop :=
  ∃ cell, pool.OpenAt stock w key cell ∧ (w.entries cell).get? key = none

/-- The shard that owns a key is not open, and the next attempt to open it fails. -/
def Unavailable (pool : ShardPool) (fault : Nat → Nat → Option Error) (w : World) (key : Bytes)
    (cause : Error) : Prop :=
  (pool.stateIn w).slots.get? (pool.owner key) = none ∧
    fault (pool.owner key) ((pool.stateIn w).attempts.count (pool.owner key)) = some cause

/-- What reading a key comes to: the shard that owns it is open and answers, or it stays closed. -/
inductive Reads (pool : ShardPool) (stock : List Store) (fault : Nat → Nat → Option Error)
    (key : Bytes) (w : World) : Except Error Bytes → World → Prop where
  | held {value w'} (available : ∀ cause, ¬ pool.Unavailable fault w key cause)
      (present : ¬ Absent pool stock w' key) : Reads pool stock fault key w (.ok value) w'
  | absent {w'} (available : ∀ cause, ¬ pool.Unavailable fault w key cause)
      (absent : Absent pool stock w' key) : Reads pool stock fault key w (.error .notFound) w'
  | unavailable {cause w'} (unavailable : pool.Unavailable fault w key cause)
      (still : (pool.stateIn w').slots.get? (pool.owner key) = none) :
      Reads pool stock fault key w (.error (.context s!"open shard {pool.owner key}" cause)) w'

/-- All open shards are such as a pool opens that was given a number of stores. -/
def Provided (pool : ShardPool) (stock : Nat) (w : World) : Prop :=
  ∀ index slot, (pool.stateIn w).slots.get? index = some slot → Offers stock slot

section Absence

variable {pool : ShardPool} {stock : List Store} {fault : Nat → Nat → Option Error}
  {number : Nat} {w w' : World}

/-! ## Open shards -/

theorem Access.provided {index : Nat} {answer : Except Error Slot}
    (reached : Access pool number fault index w answer w') (provided : Provided pool number w) :
    Provided pool number w' := by
  cases reached with
  | found held => exact provided
  | refused unopened fails =>
    intro other slot found
    rw [stateIn_tried] at found
    exact provided _ _ found
  | opened unopened succeeds places =>
    intro other slot found
    simp only [places.stateIn, stateIn_tried, SortedMap.get?_insert] at found
    split at found
    · cases found
      exact places.offered
    · exact provided _ _ found

/-- Whatever happens, the open shards stay such as the pool opens. -/
def StaysProvided (pool : ShardPool) (number : Nat) (w w' : World) : Prop :=
  Provided pool number w → Provided pool number w'

theorem frame_provided : Frame (StaysProvided pool number) :=
  ⟨fun _ => id, fun first second => second ∘ first⟩

theorem provided_of_slots (same : (pool.stateIn w').slots = (pool.stateIn w).slots) :
    StaysProvided pool number w w' := by
  intro provided index slot found
  rw [same] at found
  exact provided _ _ found

theorem provided_slot (onDemand : pool.opening = .onDemand fault) (index : Nat) :
    Moves (StaysProvided pool number) (pool.slot number index) :=
  fun w => (access onDemand number index w).provided

/-- The store in a slot. -/
def shardIn (stock : List Store) (slot : Slot) : Storage :=
  slot.choose (Store.storages stock) .memory .nop

/-- A pool that was given memory cells finds one in every slot that it fills. -/
theorem shardIn_offered (memories : ∀ s ∈ stock, ∃ cell, s = .memory cell) {slot : Slot}
    (offered : Offers stock.length slot) :
    ∃ cell, shardIn stock slot = .memory cell ∧ slot.choose stock .memory .nop = .memory cell := by
  cases slot with
  | fresh cell => exact ⟨cell, rfl, rfl⟩
  | stocked position =>
    have inside : position < stock.length := offered
    obtain ⟨cell, given⟩ := memories stock[position] (List.getElem_mem inside)
    have found : stock[position]? = some (.memory cell) := by
      rw [List.getElem?_eq_getElem inside, given]
    refine ⟨cell, ?_, ?_⟩ <;>
      simp [shardIn, Slot.choose, Store.storages_eq_map, found, Store.storage]

/-- Whatever stands in a slot, it is a memory cell or nothing. -/
theorem shardIn_cases (memories : ∀ s ∈ stock, ∃ cell, s = .memory cell) (slot : Slot) :
    (∃ cell, shardIn stock slot = .memory cell) ∨ shardIn stock slot = .nop := by
  by_cases offered : Offers stock.length slot
  · obtain ⟨cell, chosen, -⟩ := shardIn_offered memories offered
    exact .inl ⟨cell, chosen⟩
  · cases slot with
    | fresh cell => exact .inl ⟨cell, rfl⟩
    | stocked position =>
      have outside : stock.length ≤ position := by simpa [Offers] using offered
      right
      simp [shardIn, Slot.choose, Store.storages_eq_map, outside]

/-! ## Operations -/

/-- Of all calls of a store only the enumeration, through its visitor, touches the pool. -/
structure Idle (pool : ShardPool) (number : Nat) (s : Storage) : Prop where
  put : ∀ key value, Moves (fun w w' => pool.stateIn w' = pool.stateIn w) (s.put key value)
  get : ∀ key, Moves (fun w w' => pool.stateIn w' = pool.stateIn w) (s.get key)
  del : ∀ key, Moves (fun w w' => pool.stateIn w' = pool.stateIn w) (s.del key)
  close : Moves (fun w w' => pool.stateIn w' = pool.stateIn w) s.close
  keys : ∀ {τ : Type} {visit : Bytes → VisitM τ Unit},
    (∀ key, Leaves (StaysProvided pool number) (visit key)) →
      Leaves (StaysProvided pool number) (s.keys visit)

theorem idle_memory (cell : Ref .memory) : Idle pool number (.memory cell) where
  put _ _ _ := rfl
  get key w := by
    simp only [stateAfter, Storage.run_memory_get]
    cases (w.entries cell).get? key <;> rfl
  del _ _ := rfl
  close _ := rfl
  keys visits := by
    have reads : Moves (StaysProvided pool number) (Memory.read cell) := frame_provided.refl
    apply Moves.bind frame_provided.world (Moves.visiting reads)
    intro snapshot
    exact Moves.forM frame_provided.world fun key _ => visits key

theorem idle_nop : Idle pool number .nop where
  put _ _ _ := rfl
  get _ _ := rfl
  del _ _ := rfl
  close _ := rfl
  keys _ := Moves.pure frame_provided.world ()

theorem idle_shardIn (memories : ∀ s ∈ stock, ∃ cell, s = .memory cell) (slot : Slot) :
    Idle pool number (shardIn stock slot) := by
  rcases shardIn_cases memories slot with ⟨cell, chosen⟩ | chosen
  · rw [chosen]
    exact idle_memory cell
  · rw [chosen]
    exact idle_nop

/-- What is asked of the shard that owns a key. -/
def routed {α : Type} (pool : ShardPool) (stock : List Store) (key : Bytes)
    (act : Storage → StoreM α) : StoreM α := do
  let slot ← pool.slot (Store.storages stock).length (pool.owner key)
  act (shardIn stock slot)

theorem put_routed (key value : Bytes) :
    (Store.sharded pool stock).put key value = pool.routed stock key (·.put key value) := rfl

theorem get_routed (key : Bytes) :
    (Store.sharded pool stock).get key = pool.routed stock key (·.get key) := rfl

theorem del_routed (key : Bytes) :
    (Store.sharded pool stock).del key = pool.routed stock key (·.del key) := rfl

theorem provided_routed (onDemand : pool.opening = .onDemand fault) {α : Type}
    {act : Storage → StoreM α} (key : Bytes)
    (idle : ∀ slot,
      Moves (fun w w' => pool.stateIn w' = pool.stateIn w) (act (shardIn stock slot))) :
    Moves (StaysProvided pool (Store.storages stock).length) (pool.routed stock key act) := by
  apply Moves.bind frame_provided (provided_slot onDemand _)
  intro slot w
  apply provided_of_slots
  rw [idle slot w]

theorem Operates.provided (onDemand : pool.opening = .onDemand fault)
    (memories : ∀ s ∈ stock, ∃ cell, s = .memory cell) (operates : Operates pool stock w w') :
    StaysProvided pool (Store.storages stock).length w w' := by
  have idle (slot : Slot) : Idle pool (Store.storages stock).length (shardIn stock slot) :=
    idle_shardIn memories slot
  have gets (key : Bytes) : Moves (StaysProvided pool (Store.storages stock).length)
      ((Store.sharded pool stock).get key) := by
    rw [get_routed]
    exact provided_routed onDemand key fun slot => (idle slot).get key
  induction operates with
  | put w key value =>
    rw [put_routed]
    exact provided_routed onDemand key (fun slot => (idle slot).put key value) w
  | get w key => exact gets key w
  | del w key =>
    rw [del_routed]
    exact provided_routed onDemand key (fun slot => (idle slot).del key) w
  | contains w key =>
    apply Moves.bind frame_provided (Moves.find frame_provided (gets key))
    exact fun value => Moves.pure frame_provided _
  | @keys τ visit s visits kept =>
    have shown : Leaves (StaysProvided pool (Store.storages stock).length)
        ((Store.sharded pool stock).keys visit) := by
      apply Moves.forM frame_provided.world
      intro index _
      apply Moves.bind frame_provided.world (Moves.visiting (provided_slot onDemand index))
      exact fun slot => (idle slot).keys kept
    exact shown s
  | close w =>
    apply provided_of_slots
    exact (opensNone_close onDemand (fun slot => (idle slot).close) w).slots
  | aside same =>
    apply provided_of_slots
    rw [same]
  | seq first second before after => exact frame_provided.trans before after

/-! ## What is not found -/

theorem OpenAt.absent_iff {key : Bytes} {cell : Ref .memory}
    (opened : pool.OpenAt stock w key cell) :
    Absent pool stock w key ↔ (w.entries cell).get? key = none := by
  obtain ⟨slot, held, place⟩ := opened
  constructor
  · rintro ⟨other, ⟨slot', held', place'⟩, lacks⟩
    rw [held] at held'
    cases held'
    rw [place] at place'
    cases place'
    exact lacks
  · intro lacks
    exact ⟨cell, ⟨slot, held, place⟩, lacks⟩

theorem reads_get (onDemand : pool.opening = .onDemand fault)
    (memories : ∀ s ∈ stock, ∃ cell, s = .memory cell)
    (provided : Provided pool (Store.storages stock).length w) (key : Bytes) :
    Reads pool stock fault key w (outcome ((Store.sharded pool stock).get key) w)
      (stateAfter ((Store.sharded pool stock).get key) w) := by
  have reached := access onDemand (Store.storages stock).length (pool.owner key) w
  have kept := reached.provided provided
  cases ran : (pool.slot (Store.storages stock).length (pool.owner key)).run w with
  | error e w' =>
    have run : ((Store.sharded pool stock).get key).run w = .error e w' := by
      simp only [get_routed, routed, EStateM.run_bind, ran]
    rw [outcome_error ran, stateAfter_error ran] at reached
    rw [outcome_error run, stateAfter_error run]
    cases reached with
    | refused unopened fails =>
      apply Reads.unavailable ⟨unopened, fails⟩
      simp [stateIn_tried, unopened]
  | ok slot w' =>
    rw [stateAfter_ok ran] at kept
    rw [outcome_ok ran, stateAfter_ok ran] at reached
    have held : (pool.stateIn w').slots.get? (pool.owner key) = some slot := by
      cases reached with
      | found held => exact held
      | opened unopened succeeds places => simp [places.stateIn]
    have available (cause : Error) : ¬ pool.Unavailable fault w key cause := by
      rintro ⟨unopened, fails⟩
      cases reached with
      | found held => simp [unopened] at held
      | opened unopened succeeds places => simp [succeeds] at fails
    have offered : Offers stock.length slot := by
      rw [← Store.length_storages stock]
      exact kept _ _ held
    obtain ⟨cell, chosen, place⟩ := shardIn_offered memories offered
    have opened : pool.OpenAt stock w' key cell := ⟨slot, held, place⟩
    have run : ((Store.sharded pool stock).get key).run w =
        ((Storage.memory cell).get key).run w' := by
      simp only [get_routed, routed, EStateM.run_bind, ran, chosen]
    rw [Storage.run_memory_get] at run
    cases looked : (w'.entries cell).get? key with
    | some value =>
      rw [looked] at run
      rw [outcome_ok run, stateAfter_ok run]
      exact .held available (by simp [opened.absent_iff, looked])
    | none =>
      rw [looked] at run
      rw [outcome_error run, stateAfter_error run]
      exact .absent available (opened.absent_iff.mpr looked)

/-- Looking for a key answers no exactly if reading it fails as "not found". -/
theorem contains_eq_false_iff (s : Store) (key : Bytes) :
    outcome (s.contains key) w = .ok false ↔
      ∃ e, outcome (s.get key) w = .error e ∧ e.isNotFound = true := by
  have looks : (s.contains key).run w = match (s.get key).run w with
      | .ok value w' => .ok true w'
      | .error e w' => if e.isNotFound then .ok false w' else .error e w' := by
    simp only [Store.contains, Storage.contains, Storage.find?, Store.get, EStateM.run_bind,
      run_attempt]
    cases (s.storage.get key).run w with
    | ok value w' => rfl
    | error e w' => cases missing : e.isNotFound <;> simp [missing]
  unfold outcome
  rw [looks]
  cases (s.get key).run w with
  | ok value w' => simp
  | error e w' => cases missing : e.isNotFound <;> simp [missing]

theorem Unavailable.unique {key : Bytes} {cause cause' : Error}
    (first : pool.Unavailable fault w key cause) (second : pool.Unavailable fault w key cause') :
    cause = cause' :=
  Option.some.inj (first.2.symm.trans second.2)

theorem not_absent_of_closed {key : Bytes}
    (still : (pool.stateIn w).slots.get? (pool.owner key) = none) : ¬ Absent pool stock w key := by
  rintro ⟨cell, ⟨slot, held, -⟩, -⟩
  simp [still] at held

/-- A store that is sharded over memory cells fails to read a key as "not found" in two cases: the
    shard that owns the key is open then and does not hold it, or the shard could not be opened for
    a cause that says "not found" of something else; looking for the key answers no in the same
    cases. A shard that cannot be opened is not open afterwards either. So "not found" means that
    the key is absent exactly as long as no failure to open a shard says "not found". -/
theorem not_found_iff_absent_or_unavailable {start : World}
    (onDemand : pool.opening = .onDemand fault)
    (memories : ∀ s ∈ stock, ∃ cell, s = .memory cell) (fresh : pool.stateIn start = {})
    (operates : Operates pool stock start w) (key : Bytes) :
    ((∃ e, outcome ((Store.sharded pool stock).get key) w = .error e ∧ e.isNotFound = true) ↔
        Absent pool stock (stateAfter ((Store.sharded pool stock).get key) w) key ∨
          ∃ cause, pool.Unavailable fault w key cause ∧ cause.isNotFound = true) ∧
      (outcome ((Store.sharded pool stock).contains key) w = .ok false ↔
        Absent pool stock (stateAfter ((Store.sharded pool stock).get key) w) key ∨
          ∃ cause, pool.Unavailable fault w key cause ∧ cause.isNotFound = true) ∧
      (∀ cause, pool.Unavailable fault w key cause →
        outcome ((Store.sharded pool stock).get key) w =
            .error (.context s!"open shard {pool.owner key}" cause) ∧
          (pool.stateIn (stateAfter ((Store.sharded pool stock).get key) w)).slots.get?
            (pool.owner key) = none) ∧
      (((∃ e, outcome ((Store.sharded pool stock).get key) w = .error e ∧ e.isNotFound = true) →
          Absent pool stock (stateAfter ((Store.sharded pool stock).get key) w) key) ↔
        ∀ cause, pool.Unavailable fault w key cause → cause.isNotFound = false) := by
  have provided : Provided pool (Store.storages stock).length w := by
    apply operates.provided onDemand memories
    intro index slot found
    rw [fresh] at found
    simp [SortedMap.get?_empty] at found
  have reads := reads_get onDemand memories provided key
  rw [contains_eq_false_iff]
  generalize outcome ((Store.sharded pool stock).get key) w = answer at reads ⊢
  generalize stateAfter ((Store.sharded pool stock).get key) w = w' at reads ⊢
  cases reads with
  | held available present => simp [available, present]
  | absent available absent => simp [available, absent, Error.isNotFound]
  | @unavailable cause _ unavailable still =>
    have closed : ¬ Absent pool stock w' key := not_absent_of_closed still
    have only (other : Error) : pool.Unavailable fault w key other ↔ other = cause := by
      constructor
      · exact fun second => second.unique unavailable
      · rintro rfl
        exact unavailable
    simp [closed, only, still]

end Absence

/-! ## A shard that is taken for an absent key -/

/-- A pool of one shard, which is not found when it is first to be opened. -/
def notFoundAtFirst : ShardPool where
  state := ⟨0⟩
  hash _ := 0
  count := 1
  opening := .onDemand fun _ attempt => if attempt = 0 then some .notFound else none

/-- The only shard holds a key. -/
def holdingKey : World where
  randomness _ := 0
  memories := { cells := SortedMap.empty.insert 0 { entries := SortedMap.empty.insert [7] [1] } }

/-- The store over this shard. -/
def overOneShard : Store := .sharded notFoundAtFirst [.memory ⟨0⟩]

/-- Looking for a key that the shard holds answers no, then yes, although nothing was written. -/
theorem unopened_shard_taken_for_absent_key :
    notFoundAtFirst.stateIn holdingKey = {} ∧ (holdingKey.entries ⟨0⟩).get? [7] = some [1] ∧
      (∃ e, outcome (overOneShard.get [7]) holdingKey = .error e ∧ e.isNotFound = true) ∧
      outcome (overOneShard.contains [7]) holdingKey = .ok false ∧
      (notFoundAtFirst.stateIn (stateAfter (overOneShard.contains [7]) holdingKey)).slots.get?
        (notFoundAtFirst.owner [7]) = none ∧
      ¬ Absent notFoundAtFirst [.memory ⟨0⟩] (stateAfter (overOneShard.get [7]) holdingKey) [7] ∧
      outcome (overOneShard.contains [7]) (stateAfter (overOneShard.contains [7]) holdingKey) =
        .ok true :=
  ⟨rfl, rfl, ⟨_, rfl, rfl⟩, rfl, rfl, not_absent_of_closed rfl, rfl⟩

/-- Once the shard is open, "not found" says that a key is absent. -/
theorem not_found_iff_absent_or_unavailable_reopened :
    outcome (overOneShard.contains [8]) (stateAfter (overOneShard.contains [7]) holdingKey) =
        .ok false ∧
      Absent notFoundAtFirst [.memory ⟨0⟩]
        (stateAfter (overOneShard.get [8]) (stateAfter (overOneShard.contains [7]) holdingKey))
        [8] := by
  have memories : ∀ s ∈ [Store.memory ⟨0⟩], ∃ cell, s = .memory cell := by simp
  have looked : Operates notFoundAtFirst [.memory ⟨0⟩] holdingKey
      (stateAfter (overOneShard.contains [7]) holdingKey) := .contains holdingKey [7]
  obtain ⟨-, absent, -, -⟩ := not_found_iff_absent_or_unavailable rfl memories rfl looked [8]
  have available : ¬ ∃ cause, notFoundAtFirst.Unavailable
      (fun _ attempt => if attempt = 0 then some .notFound else none)
      (stateAfter (overOneShard.contains [7]) holdingKey) [8] cause ∧ cause.isNotFound = true := by
    rintro ⟨cause, ⟨-, fails⟩, -⟩
    cases fails
  refine ⟨rfl, ?_⟩
  rcases absent.mp rfl with lacks | never
  · exact lacks
  · exact absurd never available

end ShardPool

end StoreGraph
