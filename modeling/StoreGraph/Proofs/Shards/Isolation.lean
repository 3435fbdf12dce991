import StoreGraph.Proofs.Requests

/-! # Faults of single shards

Two systems of shards that differ in some of their shards, of which those of one system may fail
where those of the other do not, cannot be told apart by requests for keys of the other shards
(`shard_faults_stay_in_their_shard`). All that the shards of a system share is the state of its
pool, and of this state every shard has an entry of its own. So a request changes no shard but the
one that it is routed to (`spares_request`), and what it answers depends on this shard alone
(`alike_request`). Plain stores in different cells make up such systems (`distinct_ofPlain`).
-/

namespace StoreGraph

/-- A pool with the stores of its shards. The stores are given, one for each shard, or else every
    shard gets a memory cell of its own when it is opened. -/
structure ShardSystem (V : Type) where
  pool : ShardPool
  stock : List Storage
  /-- The part of the world that a given store keeps for itself. -/
  part : Nat → World → V

namespace ShardSystem

variable {V : Type}

def storage (s : ShardSystem V) : Storage := .sharded s.pool s.stock

/-- The world after a run of requests; those that fail are part of it, too. -/
def after (s : ShardSystem V) : List KeyRequest → World → World
  | [], w => w
  | request :: rest, w => s.after rest (stateAfter (request.ask s.storage) w)

/-- What is in a slot. -/
def held (s : ShardSystem V) (w : World) : Slot → V ⊕ SortedMap Bytes Bytes
  | .stocked position => .inl (s.part position w)
  | .fresh cell => .inr (w.entries cell)

/-- What there is to a shard. -/
structure Shard (V : Type) where
  /-- How often it was to be opened. -/
  attempts : Nat
  /-- The contents of its slot, if it was opened. -/
  slot : Option (V ⊕ SortedMap Bytes Bytes)
  /-- The contents of the store that is given for it. -/
  given : Option V

def shard (s : ShardSystem V) (w : World) (index : Nat) : Shard V where
  attempts := (s.pool.stateIn w).attempts.count index
  slot := ((s.pool.stateIn w).slots.get? index).map (s.held w)
  given := if index < s.stock.length then some (s.part index w) else none

/-- The stores of a system are distinct: whatever is asked of one of them, the parts of the others
    stay as they are, and so do the pool and its shards. -/
structure Distinct (s : ShardSystem V) : Prop where
  positive : 0 < s.pool.count
  number : s.stock.length = s.pool.count ∨
    s.stock = [] ∧ ∃ fault, s.pool.opening = .onDemand fault
  apart : ∀ {index other : Nat} {store : Storage}, s.stock[index]? = some store → other ≠ index →
    ∀ request : KeyRequest, Moves (fun w w' => s.part other w' = s.part other w) (request.ask store)
  idle : ∀ {index : Nat} {store : Storage}, s.stock[index]? = some store →
    ∀ request : KeyRequest,
      Moves (fun w w' => s.pool.stateIn w' = s.pool.stateIn w) (request.ask store)
  pools : ∀ index w f, s.part index (w.changePool s.pool.state f) = s.part index w
  reports : ∀ index w event, s.part index (w.reporting event) = s.part index w

/-- Two systems are alike except for some shards, which may fail in any way, or fail to be opened,
    in one system and not in the other. -/
structure AlikeOutside (faulty : Nat → Prop) (one two : ShardSystem V) : Prop where
  hash : two.pool.hash = one.pool.hash
  count : two.pool.count = one.pool.count
  number : two.stock.length = one.stock.length
  opening : one.pool.opening = .ready ∧ two.pool.opening = .ready ∨
    ∃ fault fault', one.pool.opening = .onDemand fault ∧ two.pool.opening = .onDemand fault' ∧
      ∀ index, ¬ faulty index → fault' index = fault index
  stores : ∀ {index : Nat} {store store' : Storage}, ¬ faulty index →
    one.stock[index]? = some store → two.stock[index]? = some store' →
    ∀ (request : KeyRequest) {w w' : World},
      one.part index w = two.part index w' →
      outcome (request.ask store) w = outcome (request.ask store') w' ∧
        one.part index (stateAfter (request.ask store) w) =
          two.part index (stateAfter (request.ask store') w')

/-- Where the store of an open shard is. -/
inductive Stands (s : ShardSystem V) (w : World) (index : Nat) : Slot → Prop where
  | given (inside : index < s.stock.length) : Stands s w index (.stocked index)
  | own {cell : Ref .memory} (none : s.stock = []) (old : cell.index < w.memories.next) :
      Stands s w index (.fresh cell)

/-- Every open shard is where it belongs, and no two are in the same cell. -/
structure Sound (s : ShardSystem V) (w : World) : Prop where
  stands : ∀ {index slot}, (s.pool.stateIn w).slots.get? index = some slot → s.Stands w index slot
  single : ∀ {index other cell}, (s.pool.stateIn w).slots.get? index = some (.fresh cell) →
    (s.pool.stateIn w).slots.get? other = some (.fresh cell) → index = other

/-- At most one shard has changed. -/
structure Spares (s : ShardSystem V) (index : Nat) (w w' : World) : Prop where
  sound : s.Sound w'
  others : ∀ other, other ≠ index → s.shard w' other = s.shard w other

section OneSystem

variable {s : ShardSystem V} {w w' w'' : World} {index other : Nat} {slot : Slot}

theorem shard_congr (sound : s.Sound w)
    (attempts : (s.pool.stateIn w').attempts.count other = (s.pool.stateIn w).attempts.count other)
    (slots : (s.pool.stateIn w').slots.get? other = (s.pool.stateIn w).slots.get? other)
    (part : other < s.stock.length → s.part other w' = s.part other w)
    (cells : ∀ cell, (s.pool.stateIn w).slots.get? other = some (.fresh cell) →
      w'.entries cell = w.entries cell) :
    s.shard w' other = s.shard w other := by
  have contents : ((s.pool.stateIn w).slots.get? other).map (s.held w') =
      ((s.pool.stateIn w).slots.get? other).map (s.held w) := by
    cases found : (s.pool.stateIn w).slots.get? other with
    | none => rfl
    | some slot =>
      cases sound.stands found with
      | given inside => simp [held, part inside]
      | own none old => simp [held, cells _ found]
  have given : (if other < s.stock.length then some (s.part other w') else none) =
      if other < s.stock.length then some (s.part other w) else none := by
    split
    · rw [part ‹_›]
    · rfl
  simp only [shard, attempts, slots, contents, given]

theorem Stands.mono (stands : s.Stands w index slot)
    (older : s.stock = [] → w.memories.next ≤ w'.memories.next) : s.Stands w' index slot := by
  cases stands with
  | given inside => exact .given inside
  | own none old => exact .own none (Nat.lt_of_lt_of_le old (older none))

theorem Spares.refl (sound : s.Sound w) : s.Spares index w w := ⟨sound, fun _ _ => rfl⟩

theorem Spares.trans (first : s.Spares index w w') (second : s.Spares index w' w'') :
    s.Spares index w w'' :=
  ⟨second.sound, fun other apart => (second.others other apart).trans (first.others other apart)⟩

/-- What leaves the slots alone keeps the shards where they are. -/
theorem Sound.congr (sound : s.Sound w)
    (slots : (s.pool.stateIn w').slots = (s.pool.stateIn w).slots)
    (older : s.stock = [] → w.memories.next ≤ w'.memories.next) : s.Sound w' := by
  constructor
  · intro index slot found
    rw [slots] at found
    exact (sound.stands found).mono older
  · intro index other cell found found'
    rw [slots] at found found'
    exact sound.single found found'

/-! ## Opening a shard -/

theorem spares_tried (distinct : s.Distinct) (sound : s.Sound w) :
    s.Spares index w (s.pool.tried index w) := by
  have state : s.pool.stateIn (s.pool.tried index w) = { s.pool.stateIn w with
      attempts := (s.pool.stateIn w).attempts ++ [index] } := ShardPool.stateIn_tried
  refine ⟨sound.congr (by rw [state]) fun _ => Nat.le_refl _, ?_⟩
  intro other apart
  apply shard_congr sound
  · simp [state, List.count_append, Ne.symm apart]
  · rw [state]
  · intro _
    exact distinct.pools other w _
  · intro cell _
    rfl

/-- A shard may be put into its slot where no other shard is. -/
theorem Sound.insert (sound : s.Sound w)
    (slots : (s.pool.stateIn w').slots = (s.pool.stateIn w).slots.insert index slot)
    (older : w.memories.next ≤ w'.memories.next) (stands : s.Stands w' index slot)
    (alone : ∀ other, (s.pool.stateIn w).slots.get? other = some slot →
      ∀ cell, slot ≠ .fresh cell) : s.Sound w' := by
  constructor
  · intro other there found
    rw [slots, SortedMap.get?_insert] at found
    split at found
    · subst other
      cases found
      exact stands
    · exact (sound.stands found).mono fun _ => older
  · intro first second cell found found'
    rw [slots, SortedMap.get?_insert] at found found'
    split at found <;> split at found'
    · simp_all
    · cases found
      exact absurd rfl (alone second found' cell)
    · cases found'
      exact absurd rfl (alone first found cell)
    · exact sound.single found found'

theorem Distinct.inside (distinct : s.Distinct) (inside : index < s.pool.count)
    (given : s.stock.length ≠ 0) : index < s.stock.length := by
  rcases distinct.number with all | ⟨none, -⟩
  · omega
  · simp [none] at given

theorem Distinct.position (distinct : s.Distinct) (inside : index < s.pool.count)
    (given : s.stock.length ≠ 0) : index % s.stock.length = index :=
  Nat.mod_eq_of_lt (distinct.inside inside given)

theorem spares_places (distinct : s.Distinct) (sound : s.Sound w) (inside : index < s.pool.count)
    (places : s.pool.Places s.stock.length index w slot w') :
    s.Spares index w w' ∧ (s.pool.stateIn w').slots.get? index = some slot := by
  have state := places.stateIn
  have slots : (s.pool.stateIn w').slots = (s.pool.stateIn w).slots.insert index slot := by
    rw [state]
  have attempts : (s.pool.stateIn w').attempts = (s.pool.stateIn w).attempts := by rw [state]
  have elsewhere (other : Nat) (apart : other ≠ index) :
      (s.pool.stateIn w').slots.get? other = (s.pool.stateIn w).slots.get? other := by
    rw [slots, SortedMap.get?_insert_of_ne _ apart]
  refine ⟨?_, by simp [slots]⟩
  cases places with
  | handed given =>
    constructor
    · apply sound.insert slots (Nat.le_refl _)
      · rw [distinct.position inside given]
        exact .given (distinct.inside inside given)
      · simp
    · intro other apart
      apply shard_congr sound (by rw [attempts]) (elsewhere other apart)
      · intro _
        exact (distinct.pools other _ _).trans (distinct.reports other w _)
      · intro cell _
        rfl
  | created own =>
    have none : s.stock = [] := List.length_eq_zero_iff.mp own
    constructor
    · apply sound.insert slots (Nat.le_succ _)
      · exact .own none (Nat.lt_succ_self _)
      · intro other found
        cases sound.stands found with
        | own _ old => simp at old
    · intro other apart
      apply shard_congr sound (by rw [attempts]) (elsewhere other apart)
      · intro given
        omega
      · intro cell found
        cases sound.stands found with
        | own _ old => exact w.entries_withMemory_old old

/-- Where a request that was routed to a shard finds it. -/
def Finds (s : ShardSystem V) (w : World) (index : Nat) (slot : Slot) : Prop :=
  s.Stands w index slot ∧ ∀ cell, slot = .fresh cell →
    (s.pool.stateIn w).slots.get? index = some slot

/-- The shards of a pool that opens none are found at the given stores. -/
theorem run_slot_ready (distinct : s.Distinct) (inside : index < s.pool.count)
    (ready : s.pool.opening = .ready) :
    index < s.stock.length ∧
      (s.pool.slot s.stock.length index).run w = .ok (.stocked index) w := by
  constructor
  · rcases distinct.number with all | ⟨-, fault, onDemand⟩
    · omega
    · simp [ready] at onDemand
  · simp only [ShardPool.slot, ready, EStateM.run_pure]

theorem spares_slot (distinct : s.Distinct) (sound : s.Sound w) (inside : index < s.pool.count) :
    s.Spares index w (stateAfter (s.pool.slot s.stock.length index) w) ∧
      ∀ slot, outcome (s.pool.slot s.stock.length index) w = .ok slot →
        s.Finds (stateAfter (s.pool.slot s.stock.length index) w) index slot := by
  cases opening : s.pool.opening with
  | ready =>
    obtain ⟨given, run⟩ := run_slot_ready (w := w) distinct inside opening
    rw [outcome_ok run, stateAfter_ok run]
    refine ⟨.refl sound, ?_⟩
    rintro slot ⟨⟩
    exact ⟨.given given, by simp⟩
  | onDemand fault =>
    have reached := ShardPool.access opening s.stock.length index w
    generalize outcome (s.pool.slot s.stock.length index) w = answer at reached ⊢
    generalize stateAfter (s.pool.slot s.stock.length index) w = w' at reached ⊢
    cases reached with
    | found held =>
      refine ⟨.refl sound, ?_⟩
      rintro slot ⟨⟩
      exact ⟨sound.stands held, fun _ _ => held⟩
    | refused unopened fails => exact ⟨spares_tried distinct sound, by simp⟩
    | opened unopened succeeds places =>
      have noted : s.Spares index w (s.pool.tried index w) := spares_tried distinct sound
      obtain ⟨spares, held⟩ := spares_places distinct noted.sound inside places
      refine ⟨noted.trans spares, ?_⟩
      rintro slot ⟨⟩
      exact ⟨spares.sound.stands held, fun _ _ => held⟩

/-! ## Requests -/

theorem spares_call (distinct : s.Distinct) (sound : s.Sound w) (finds : s.Finds w index slot)
    (request : KeyRequest) :
    s.Spares index w (stateAfter (request.ask (slot.choose s.stock .memory .nop)) w) := by
  obtain ⟨stands, held⟩ := finds
  cases stands with
  | given inside =>
    have found : s.stock[index]? = some s.stock[index] := List.getElem?_eq_getElem inside
    have chosen : Slot.choose s.stock Storage.memory .nop (.stocked index) = s.stock[index] := by
      simp [Slot.choose, found]
    have state := distinct.idle found request w
    rw [chosen]
    constructor
    · apply sound.congr (by rw [state])
      intro none
      simp [none] at inside
    · intro other apart
      apply shard_congr sound (by rw [state]) (by rw [state])
      · intro _
        exact distinct.apart found apart request w
      · intro cell there
        cases sound.stands there with
        | own none _ => simp [none] at inside
  | @own cell none old =>
    obtain ⟨-, pools, -, next, entries⟩ := request.ask_memory w cell
    have state := pools s.pool
    constructor
    · apply sound.congr (congrArg PoolState.slots state)
      intro _
      exact Nat.le_of_eq next.symm
    · intro other apart
      apply shard_congr sound (congrArg (·.attempts.count other) state)
        (congrArg (·.slots.get? other) state)
      · intro inside
        simp [none] at inside
      · intro cell' there
        have different : cell' ≠ cell := by
          rintro rfl
          exact apart (sound.single there (held _ rfl))
        exact (entries cell').trans (if_neg different)

theorem owner_lt (distinct : s.Distinct) (key : Bytes) : s.pool.owner key < s.pool.count :=
  Nat.mod_lt _ distinct.positive

/-- A request changes at most the shard that owns its key. -/
theorem spares_request (distinct : s.Distinct) (sound : s.Sound w) (request : KeyRequest) :
    s.Spares (s.pool.owner request.key) w (stateAfter (request.ask s.storage) w) := by
  obtain ⟨reaches, finds⟩ := spares_slot distinct sound (owner_lt distinct request.key)
  rw [storage, KeyRequest.ask_sharded, stateAfter_bind]
  cases answered : outcome (s.pool.slot s.stock.length (s.pool.owner request.key)) w with
  | error e => exact reaches
  | ok slot =>
    exact reaches.trans (spares_call distinct reaches.sound (finds slot answered) request)

theorem sound_new (new : s.pool.stateIn w = {}) : s.Sound w := by
  constructor <;> intros <;> simp_all [SortedMap.get?_empty]

/-! ## What decides about a shard -/

/-- What a shard holds when it is opened. -/
def Shard.start (shard : Shard V) : V ⊕ SortedMap Bytes Bytes :=
  match shard.given with
  | some part => .inl part
  | none => .inr .empty

/-- What an access to a shard comes to, given when it fails to be opened. -/
def Shard.access (index : Nat) (fault : Nat → Option Error) (shard : Shard V) :
    Except Error (V ⊕ SortedMap Bytes Bytes) × Shard V :=
  match shard.slot with
  | some contents => (.ok contents, shard)
  | none =>
    match fault shard.attempts with
    | some cause => (.error (.context s!"open shard {index}" cause),
        { shard with attempts := shard.attempts + 1 })
    | none => (.ok shard.start,
        { shard with attempts := shard.attempts + 1, slot := some shard.start })

theorem shard_tried (distinct : s.Distinct) : s.shard (s.pool.tried index w) index =
    { s.shard w index with attempts := (s.shard w index).attempts + 1 } := by
  have state : s.pool.stateIn (s.pool.tried index w) = { s.pool.stateIn w with
      attempts := (s.pool.stateIn w).attempts ++ [index] } := ShardPool.stateIn_tried
  have parts : s.part index (s.pool.tried index w) = s.part index w := distinct.pools index w _
  have contents : s.held (s.pool.tried index w) = s.held w := by
    funext slot
    cases slot with
    | stocked position => exact congrArg Sum.inl (distinct.pools position w _)
    | fresh cell => rfl
  simp [shard, state, parts, contents]

theorem shard_places (distinct : s.Distinct) (inside : index < s.pool.count)
    (places : s.pool.Places s.stock.length index w slot w') :
    s.held w' slot = (s.shard w index).start ∧
      s.shard w' index = { s.shard w index with slot := some (s.shard w index).start } := by
  have state := places.stateIn
  have contents : s.held w' slot = (s.shard w index).start ∧
      (index < s.stock.length → s.part index w' = s.part index w) := by
    cases places with
    | handed given =>
      have part : s.part index (s.pool.placed index (.stocked (index % s.stock.length)) w) =
          s.part index w := (distinct.pools index _ _).trans (distinct.reports index w _)
      refine ⟨?_, fun _ => part⟩
      rw [distinct.position inside given] at part ⊢
      simp [held, part, Shard.start, shard, distinct.inside inside given]
    | created own =>
      refine ⟨?_, by omega⟩
      have empty : (s.pool.placed index (.fresh ⟨w.memories.next⟩) w.withMemory).entries
          ⟨w.memories.next⟩ = .empty := w.entries_withMemory_new
      simp [held, empty, Shard.start, shard, own]
  obtain ⟨start, part⟩ := contents
  refine ⟨start, ?_⟩
  rw [← start]
  have given : (s.shard w' index).given = (s.shard w index).given := by
    unfold shard
    by_cases inside : index < s.stock.length
    · simp [inside, part inside]
    · simp [inside]
  simpa [shard, state] using given

/-- Access to a shard depends on nothing but this shard. -/
theorem access_shard (distinct : s.Distinct) (inside : index < s.pool.count)
    {fault : Nat → Nat → Option Error} (onDemand : s.pool.opening = .onDemand fault) :
    ((outcome (s.pool.slot s.stock.length index) w).map
        (s.held (stateAfter (s.pool.slot s.stock.length index) w)),
      s.shard (stateAfter (s.pool.slot s.stock.length index) w) index) =
        (s.shard w index).access index (fault index) := by
  have reached := ShardPool.access onDemand s.stock.length index w
  generalize outcome (s.pool.slot s.stock.length index) w = answer at reached ⊢
  generalize stateAfter (s.pool.slot s.stock.length index) w = w' at reached ⊢
  unfold Shard.access
  cases reached with
  | @found slot held =>
    have opened : (s.shard w index).slot = some (s.held w slot) := by simp [shard, held]
    simp [opened, Except.map]
  | refused unopened fails =>
    have closed : (s.shard w index).slot = none := by simp [shard, unopened]
    have attempts : (s.shard w index).attempts = (s.pool.stateIn w).attempts.count index := rfl
    simp [closed, attempts, fails, shard_tried distinct, Except.map]
  | opened unopened succeeds places =>
    have closed : (s.shard w index).slot = none := by simp [shard, unopened]
    have attempts : (s.shard w index).attempts = (s.pool.stateIn w).attempts.count index := rfl
    obtain ⟨contents, placed⟩ := shard_places distinct inside places
    rw [shard_tried distinct] at contents placed
    simp only [closed, attempts, succeeds, contents, placed, Except.map]
    rfl

theorem shard_called_given (sound : s.Sound w) (inside : index < s.stock.length)
    (same : s.pool.stateIn w' = s.pool.stateIn w) : s.shard w' index =
      { attempts := (s.shard w index).attempts
        slot := (s.shard w index).slot.map fun _ => .inl (s.part index w')
        given := some (s.part index w') } := by
  have contents : ((s.pool.stateIn w).slots.get? index).map (s.held w') =
      ((s.pool.stateIn w).slots.get? index).map fun _ => .inl (s.part index w') := by
    cases found : (s.pool.stateIn w).slots.get? index with
    | none => rfl
    | some slot =>
      cases sound.stands found with
      | given _ => rfl
      | own none _ => simp [none] at inside
  simp [shard, same, contents, inside, Function.comp_def]

theorem shard_called_own {cell : Ref .memory} (none : s.stock = [])
    (found : (s.pool.stateIn w).slots.get? index = some (.fresh cell))
    (same : s.pool.stateIn w' = s.pool.stateIn w) : s.shard w' index =
      { s.shard w index with slot := some (.inr (w'.entries cell)) } := by
  simp [shard, same, found, none, held]

end OneSystem

/-! ## Two systems -/

section TwoSystems

variable {one two : ShardSystem V} {faulty : Nat → Prop} {w w' : World} {index : Nat}

theorem AlikeOutside.owner (alike : AlikeOutside faulty one two) (key : Bytes) :
    two.pool.owner key = one.pool.owner key := by
  simp only [ShardPool.owner, alike.hash, alike.count]

theorem alike_slot (alike : AlikeOutside faulty one two) (distinct : one.Distinct)
    (distinct' : two.Distinct) (sane : ¬ faulty index) (inside : index < one.pool.count)
    (same : one.shard w index = two.shard w' index) :
    (outcome (one.pool.slot one.stock.length index) w).map
        (one.held (stateAfter (one.pool.slot one.stock.length index) w)) =
      (outcome (two.pool.slot two.stock.length index) w').map
        (two.held (stateAfter (two.pool.slot two.stock.length index) w')) ∧
      one.shard (stateAfter (one.pool.slot one.stock.length index) w) index =
        two.shard (stateAfter (two.pool.slot two.stock.length index) w') index := by
  have inside' : index < two.pool.count := by
    rw [alike.count]
    exact inside
  rcases alike.opening with ⟨ready, ready'⟩ | ⟨fault, fault', onDemand, onDemand', faults⟩
  · obtain ⟨given, run⟩ := run_slot_ready (w := w) distinct inside ready
    obtain ⟨given', run'⟩ := run_slot_ready (w := w') distinct' inside' ready'
    rw [outcome_ok run, stateAfter_ok run, outcome_ok run', stateAfter_ok run']
    refine ⟨?_, same⟩
    have parts := congrArg Shard.given same
    simp only [shard, given, given', if_true, Option.some.injEq] at parts
    simp [Except.map, held, parts]
  · have first := access_shard (w := w) distinct inside onDemand
    have second := access_shard (w := w') distinct' inside' onDemand'
    rw [← same, faults index sane, ← first] at second
    exact ⟨congrArg Prod.fst second.symm, congrArg Prod.snd second.symm⟩

theorem alike_call (alike : AlikeOutside faulty one two) (distinct : one.Distinct)
    (distinct' : two.Distinct) (sane : ¬ faulty index) (sound : one.Sound w) (sound' : two.Sound w')
    {slot slot' : Slot} (finds : one.Finds w index slot) (finds' : two.Finds w' index slot')
    (contents : one.held w slot = two.held w' slot')
    (same : one.shard w index = two.shard w' index) (request : KeyRequest) :
    outcome (request.ask (slot.choose one.stock .memory .nop)) w =
        outcome (request.ask (slot'.choose two.stock .memory .nop)) w' ∧
      one.shard (stateAfter (request.ask (slot.choose one.stock .memory .nop)) w) index =
        two.shard (stateAfter (request.ask (slot'.choose two.stock .memory .nop)) w') index := by
  obtain ⟨stands, found⟩ := finds
  obtain ⟨stands', found'⟩ := finds'
  cases stands with
  | given inside =>
    cases stands' with
    | own _ _ => cases contents
    | given inside' =>
      have parts : one.part index w = two.part index w' := Sum.inl.inj contents
      have store : one.stock[index]? = some one.stock[index] := List.getElem?_eq_getElem inside
      have store' : two.stock[index]? = some two.stock[index] := List.getElem?_eq_getElem inside'
      obtain ⟨answers, after⟩ := alike.stores sane store store' request parts
      simp only [Slot.choose, store, store', Option.getD_some]
      refine ⟨answers, ?_⟩
      rw [shard_called_given sound inside (distinct.idle store request w),
        shard_called_given sound' inside' (distinct'.idle store' request w'), after, same]
  | @own cell none old =>
    cases stands' with
    | given _ => cases contents
    | @own cell' none' old' =>
      have entries : w.entries cell = w'.entries cell' := Sum.inr.inj contents
      obtain ⟨answers, state, -, -, after⟩ := request.ask_memory w cell
      obtain ⟨answers', state', -, -, after'⟩ := request.ask_memory w' cell'
      have alone : (stateAfter (request.ask (.memory cell)) w).entries cell =
          (stateAfter (request.ask (.memory cell')) w').entries cell' := by
        simp [after, after', entries]
      simp only [Slot.choose]
      constructor
      · rw [answers, answers', entries]
      · rw [shard_called_own none (found cell rfl) (state one.pool),
          shard_called_own none' (found' cell' rfl) (state' two.pool), alone, same]

theorem alike_request (alike : AlikeOutside faulty one two) (distinct : one.Distinct)
    (distinct' : two.Distinct) (sound : one.Sound w) (sound' : two.Sound w') (request : KeyRequest)
    (sane : ¬ faulty (one.pool.owner request.key))
    (same : one.shard w (one.pool.owner request.key) = two.shard w' (one.pool.owner request.key)) :
    outcome (request.ask one.storage) w = outcome (request.ask two.storage) w' ∧
      one.shard (stateAfter (request.ask one.storage) w) (one.pool.owner request.key) =
        two.shard (stateAfter (request.ask two.storage) w') (one.pool.owner request.key) := by
  have inside := owner_lt distinct request.key
  have inside' : one.pool.owner request.key < two.pool.count := by
    rw [alike.count]
    exact inside
  obtain ⟨reaches, finds⟩ := spares_slot distinct sound inside
  obtain ⟨reaches', finds'⟩ := spares_slot distinct' sound' inside'
  obtain ⟨contents, opened⟩ := alike_slot alike distinct distinct' sane inside same
  simp only [storage, KeyRequest.ask_sharded, outcome_bind, stateAfter_bind, alike.owner]
  cases answer : outcome (one.pool.slot one.stock.length (one.pool.owner request.key)) w with
  | error e =>
    cases answer' : outcome (two.pool.slot two.stock.length (one.pool.owner request.key)) w' with
    | ok slot' => simp [answer, answer', Except.map] at contents
    | error e' =>
      simp only [answer, answer', Except.map, Except.error.injEq] at contents
      exact ⟨by rw [contents], opened⟩
  | ok slot =>
    cases answer' : outcome (two.pool.slot two.stock.length (one.pool.owner request.key)) w' with
    | error e' => simp [answer, answer', Except.map] at contents
    | ok slot' =>
      simp only [answer, answer', Except.map, Except.ok.injEq] at contents
      exact alike_call alike distinct distinct' sane reaches.sound reaches'.sound
        (finds slot answer) (finds' slot' answer') contents opened request

/-- The two systems are sound, and the shards that are not faulty are the same in both. -/
structure Alike (faulty : Nat → Prop) (one two : ShardSystem V) (w w' : World) : Prop where
  sound : one.Sound w
  sound' : two.Sound w'
  same : ∀ index, ¬ faulty index → one.shard w index = two.shard w' index

theorem Alike.request (alike : AlikeOutside faulty one two) (distinct : one.Distinct)
    (distinct' : two.Distinct) (now : Alike faulty one two w w') (request : KeyRequest) :
    Alike faulty one two (stateAfter (request.ask one.storage) w)
      (stateAfter (request.ask two.storage) w') := by
  have spares := spares_request distinct now.sound request
  have spares' := spares_request distinct' now.sound' request
  rw [alike.owner] at spares'
  refine ⟨spares.sound, spares'.sound, ?_⟩
  intro index sane
  by_cases here : index = one.pool.owner request.key
  · subst here
    exact (alike_request alike distinct distinct' now.sound now.sound' request sane
      (now.same _ sane)).2
  · rw [spares.others index here, spares'.others index here]
    exact now.same index sane

theorem Alike.after (alike : AlikeOutside faulty one two) (distinct : one.Distinct)
    (distinct' : two.Distinct) (requests : List KeyRequest) (start : Alike faulty one two w w') :
    Alike faulty one two (one.after requests w) (two.after requests w') := by
  induction requests generalizing w w' with
  | nil => exact start
  | cons request rest ih => exact ih (start.request alike distinct distinct' request)

/-- Two systems of distinct stores that are alike except for some shards, and equal at first in the
    other ones, are not told apart by the requests for keys of these other shards: after any run of
    requests every such request is answered alike in both, and every such shard is the same in
    both, whatever the stores and the factory of the excepted shards did. -/
theorem shard_faults_stay_in_their_shard (alike : AlikeOutside faulty one two)
    (distinct : one.Distinct) (distinct' : two.Distinct) (new : one.pool.stateIn w = {})
    (new' : two.pool.stateIn w' = {})
    (parts : ∀ index, ¬ faulty index → one.part index w = two.part index w')
    (requests : List KeyRequest) :
    (∀ request : KeyRequest, ¬ faulty (one.pool.owner request.key) →
        outcome (request.ask one.storage) (one.after requests w) =
          outcome (request.ask two.storage) (two.after requests w')) ∧
      ∀ index, ¬ faulty index →
        one.shard (one.after requests w) index = two.shard (two.after requests w') index := by
  have start : Alike faulty one two w w' := by
    refine ⟨sound_new new, sound_new new', ?_⟩
    intro index sane
    simp [shard, new, new', alike.number, parts index sane, SortedMap.get?_empty]
  have finish := start.after alike distinct distinct' requests
  refine ⟨?_, finish.same⟩
  intro request sane
  exact (alike_request alike distinct distinct' finish.sound finish.sound' request sane
    (finish.same _ sane)).1

end TwoSystems

/-! ## Plain stores -/

/-- The shards of a live store over plain stores. -/
def ofPlain (pool : ShardPool) (stores : List PlainStore) :
    ShardSystem (Option (SortedMap Bytes Bytes ⊕ Probe)) where
  pool := pool
  stock := Store.storages (stores.map (·.store))
  part index w := stores[index]?.map (·.kept w)

section Plain

variable {pool pool' : ShardPool} {stores stores' : List PlainStore} {faulty : Nat → Prop}

theorem stock_ofPlain : (ofPlain pool stores).stock = stores.map (·.store.storage) := by
  simp [ofPlain, Store.storages_eq_map]

/-- Plain stores in different cells are distinct. -/
theorem distinct_ofPlain (positive : 0 < pool.count)
    (number : stores.length = pool.count ∨ stores = [] ∧ ∃ fault, pool.opening = .onDemand fault)
    (apart : stores.Pairwise PlainStore.Apart) : (ofPlain pool stores).Distinct where
  positive := positive
  number := by
    simp only [stock_ofPlain, List.length_map, List.map_eq_nil_iff]
    exact number
  apart := by
    intro index other store found different request w
    simp only [stock_ofPlain, List.getElem?_map, Option.map_eq_some_iff] at found
    obtain ⟨p, listed, rfl⟩ := found
    simp only [ofPlain]
    cases there : stores[other]? with
    | none => rfl
    | some q =>
      have separate : p.Apart q := by
        obtain ⟨inside, rfl⟩ := List.getElem?_eq_some_iff.mp listed
        obtain ⟨inside', rfl⟩ := List.getElem?_eq_some_iff.mp there
        rw [List.pairwise_iff_getElem] at apart
        rcases Nat.lt_or_gt_of_ne different with before | after
        · exact (apart other index inside' inside before).symm
        · exact apart index other inside inside' after
      obtain ⟨-, -, kept, -⟩ := p.asks request w
      exact congrArg some (kept q separate)
  idle := by
    intro index store found request w
    simp only [stock_ofPlain, List.getElem?_map, Option.map_eq_some_iff] at found
    obtain ⟨p, listed, rfl⟩ := found
    obtain ⟨-, -, -, state⟩ := p.asks request w
    exact state pool
  pools index w f := by
    simp only [ofPlain]
    cases stores[index]? with
    | none => rfl
    | some p => cases p <;> rfl
  reports index w event := by
    simp only [ofPlain]
    cases stores[index]? with
    | none => rfl
    | some p => cases p <;> rfl

/-- Systems of plain stores are alike where they have the same stores. -/
theorem alike_ofPlain (hash : pool'.hash = pool.hash) (count : pool'.count = pool.count)
    (number : stores'.length = stores.length)
    (opening : pool.opening = .ready ∧ pool'.opening = .ready ∨
      ∃ fault fault', pool.opening = .onDemand fault ∧ pool'.opening = .onDemand fault' ∧
        ∀ index, ¬ faulty index → fault' index = fault index)
    (same : ∀ index, ¬ faulty index → stores'[index]? = stores[index]?) :
    AlikeOutside faulty (ofPlain pool stores) (ofPlain pool' stores') where
  hash := hash
  count := count
  number := by simp [stock_ofPlain, number]
  opening := opening
  stores := by
    intro index store store' sane found found' request w w' parts
    simp only [stock_ofPlain, List.getElem?_map, Option.map_eq_some_iff, same index sane]
      at found found'
    simp only [ofPlain, same index sane] at parts ⊢
    obtain ⟨p, listed, rfl⟩ := found
    obtain ⟨q, listed', rfl⟩ := found'
    rw [listed] at listed'
    cases listed'
    simp only [listed, Option.map_some, Option.some.injEq] at parts ⊢
    obtain ⟨answered, kept, -, -⟩ := p.asks request w
    obtain ⟨answered', kept', -, -⟩ := p.asks request w'
    rw [answered, answered', kept, kept', parts]
    exact ⟨rfl, rfl⟩

end Plain

/-- Two probes, opened on demand. -/
def soundPair : ShardSystem (Option (SortedMap Bytes Bytes ⊕ Probe)) :=
  ofPlain ⟨⟨0⟩, fun key => UInt32.ofNat key.length, 2, .onDemand fun _ _ => none⟩
    [.probe ⟨0⟩ {}, .probe ⟨1⟩ {}]

/-- The second shard cannot be opened the first time. -/
def lamePair : ShardSystem (Option (SortedMap Bytes Bytes ⊕ Probe)) :=
  ofPlain ⟨⟨0⟩, fun key => UInt32.ofNat key.length, 2, .onDemand fun index attempt =>
    if index = 1 ∧ attempt = 0 then some (.backend "io") else none⟩
    [.probe ⟨0⟩ {}, .probe ⟨1⟩ {}]

def emptyProbes : World where
  randomness _ := 0

/-- The second store refuses to be written to. -/
def refusingProbe : World where
  randomness _ := 0
  probes :=
    { cells := SortedMap.empty.insert 1 { rules := [{ op := .put, error := .backend "io" }] } }

/-- Requests for both shards. -/
def writesToBoth : List KeyRequest := [.put [7] [1], .put [] [2], .put [7] [3], .put [7] [4]]

/-- One system loses whatever was put into its second shard, and the first shard tells nothing. -/
theorem shard_faults_stay_in_their_shard_probes :
    outcome ((KeyRequest.get [7]).ask soundPair.storage)
        (soundPair.after writesToBoth emptyProbes) = .ok (some [4]) ∧
      outcome ((KeyRequest.get [7]).ask lamePair.storage)
        (lamePair.after writesToBoth refusingProbe) = .error .notFound ∧
      outcome ((KeyRequest.get []).ask soundPair.storage)
          (soundPair.after writesToBoth emptyProbes) =
        outcome ((KeyRequest.get []).ask lamePair.storage)
          (lamePair.after writesToBoth refusingProbe) ∧
      soundPair.shard (soundPair.after writesToBoth emptyProbes) 0 =
        lamePair.shard (lamePair.after writesToBoth refusingProbe) 0 := by
  have apart : [PlainStore.probe ⟨0⟩ {}, .probe ⟨1⟩ {}].Pairwise PlainStore.Apart := by decide
  have alike : AlikeOutside (· = 1) soundPair lamePair := by
    unfold soundPair lamePair
    apply alike_ofPlain
    · rfl
    · rfl
    · rfl
    · refine .inr ⟨_, _, rfl, rfl, ?_⟩
      intro index sane
      funext attempt
      simp [sane]
    · intro _ _
      rfl
  have parts : ∀ index, ¬ index = 1 →
      soundPair.part index emptyProbes = lamePair.part index refusingProbe := by
    intro index sane
    rcases index with _ | _ | index
    · rfl
    · exact absurd rfl sane
    · rfl
  obtain ⟨answers, shards⟩ := shard_faults_stay_in_their_shard alike
    (distinct_ofPlain (by decide) (.inl rfl) apart) (distinct_ofPlain (by decide) (.inl rfl) apart)
    rfl rfl parts writesToBoth
  exact ⟨rfl, rfl, answers (.get []) (by decide), shards 0 (by decide)⟩

end ShardSystem

end StoreGraph
