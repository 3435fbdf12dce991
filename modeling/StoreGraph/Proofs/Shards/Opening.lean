import Mathlib.Data.Finset.Card
import StoreGraph.Proofs.Shards.Closing

/-! # Opening shards on demand

A pool that opens its shards on demand calls its factory when an access reaches a shard that is not
open, and at no other time. `Access` says once what such an access comes to. A run of a pool is made
of calls (`Calls`), and the accesses of its enumerations are those of `Passes`: shard by shard, each
behind the visit to the one before. From the accesses of a run alone it can be told which calls of
the factory there were, what every access answered and which shards are open
(`shards_open_once_on_demand`).
-/

namespace StoreGraph

namespace ShardPool

/-- An access to a shard. -/
structure Reach where
  index : Nat
  /-- Where the shard is, or why it could not be opened. -/
  answer : Except Error Slot

/-- Did one of the accesses find or open the shard? -/
def yielded (log : List Reach) (index : Nat) : Bool :=
  log.any fun reach => reach.index == index && reach.answer.isOk

/-- The shards that the factory is called for, given the accesses, of which the last one stands
    first: it is called at an access if no earlier one yielded the shard. -/
def called : List Reach → List Nat
  | [] => []
  | reach :: earlier =>
    if yielded earlier reach.index then called earlier else called earlier ++ [reach.index]

/-- What an access answers, given those before it. Once a call of the factory has succeeded the
    shard is found where it was opened; until then the next call decides. -/
structure Reach.Follows (fault : Nat → Nat → Option Error) (earlier : List Reach) (reach : Reach) :
    Prop where
  opened : yielded earlier reach.index = true ↔
    ∃ attempt < (called earlier).count reach.index, fault reach.index attempt = none
  again : ∀ slot, ⟨reach.index, .ok slot⟩ ∈ earlier → reach.answer = .ok slot
  first : yielded earlier reach.index = false →
    match fault reach.index ((called earlier).count reach.index) with
    | some cause => reach.answer = .error (.context s!"open shard {reach.index}" cause)
    | none => ∃ slot, reach.answer = .ok slot

mutual

/-- What is done with a pool, with the accesses that it makes, the last one first: keys are routed,
    shards enumerated and the pool closed, and in between anything happens that leaves the pool's
    state alone. A visitor may do all of this, too. -/
inductive Calls (pool : ShardPool) (stock : Nat) (closeSlot : Slot → StoreM Unit) :
    World → List Reach → World → Prop where
  | idle (w) : Calls pool stock closeSlot w [] w
  | get (w) (key : Bytes) : Calls pool stock closeSlot w
      [⟨pool.owner key, outcome (pool.slot stock (pool.owner key)) w⟩]
      (stateAfter (pool.slot stock (pool.owner key)) w)
  | iterate {τ : Type} {visit : Slot → VisitM τ Unit} {w t log answer s}
      (passes : Passes pool stock closeSlot visit (List.range pool.count) (w, t) log answer s) :
      Calls pool stock closeSlot w log s.1
  | close (w) : Calls pool stock closeSlot w [] (stateAfter (pool.close closeSlot) w)
  | aside {w w'} (same : pool.stateIn w' = pool.stateIn w) : Calls pool stock closeSlot w [] w'
  | seq {w₁ w₂ w₃ log log'} (first : Calls pool stock closeSlot w₁ log w₂)
      (second : Calls pool stock closeSlot w₂ log' w₃) :
      Calls pool stock closeSlot w₁ (log' ++ log) w₃

/-- How an enumeration of the given shards goes, with its accesses and those of its visitor. A shard
    is reached when all shards before it have been visited. -/
inductive Passes (pool : ShardPool) (stock : Nat) (closeSlot : Slot → StoreM Unit) :
    {τ : Type} → (Slot → VisitM τ Unit) → List Nat → World × τ → List Reach → Except Error Unit →
      World × τ → Prop where
  | done {τ : Type} {visit : Slot → VisitM τ Unit} (s) :
      Passes pool stock closeSlot visit [] s [] (.ok ()) s
  | refused {τ : Type} {visit : Slot → VisitM τ Unit} {index rest} {e : Error} {s : World × τ}
      (reach : outcome (pool.slot stock index) s.1 = .error e) :
      Passes pool stock closeSlot visit (index :: rest) s [⟨index, .error e⟩] (.error e)
        (stateAfter (pool.slot stock index) s.1, s.2)
  | stopped {τ : Type} {visit : Slot → VisitM τ Unit} {index rest log} {slot : Slot} {e : Error}
      {s s' : World × τ} (reach : outcome (pool.slot stock index) s.1 = .ok slot)
      (run : (visit slot).run (stateAfter (pool.slot stock index) s.1, s.2) = .error e s')
      (calls : Calls pool stock closeSlot (stateAfter (pool.slot stock index) s.1) log s'.1) :
      Passes pool stock closeSlot visit (index :: rest) s (log ++ [⟨index, .ok slot⟩]) (.error e) s'
  | visited {τ : Type} {visit : Slot → VisitM τ Unit} {index rest log log' answer} {slot : Slot}
      {s s' s'' : World × τ} (reach : outcome (pool.slot stock index) s.1 = .ok slot)
      (run : (visit slot).run (stateAfter (pool.slot stock index) s.1, s.2) = .ok () s')
      (calls : Calls pool stock closeSlot (stateAfter (pool.slot stock index) s.1) log s'.1)
      (later : Passes pool stock closeSlot visit rest s' log' answer s'') :
      Passes pool stock closeSlot visit (index :: rest) s
        (log' ++ (log ++ [⟨index, .ok slot⟩])) answer s''

end

section Opening

variable {pool : ShardPool} {stock index : Nat} {closeSlot : Slot → StoreM Unit}
  {fault : Nat → Nat → Option Error} {log log' earlier : List Reach} {answer : Except Error Slot}
  {w w' : World}

theorem yielded_iff : yielded log index = true ↔ ∃ slot, ⟨index, .ok slot⟩ ∈ log := by
  simp only [yielded, List.any_eq_true, Bool.and_eq_true, beq_iff_eq]
  constructor
  · rintro ⟨⟨index', answer⟩, listed, rfl, good⟩
    cases answer with
    | ok slot => exact ⟨slot, listed⟩
    | error e => cases good
  · rintro ⟨slot, listed⟩
    exact ⟨_, listed, rfl, rfl⟩

/-! ## What the accesses tell -/

/-- The state of a pool is what the accesses to its shards have made of a new pool. -/
structure Tells (pool : ShardPool) (fault : Nat → Nat → Option Error) (log : List Reach)
    (w : World) : Prop where
  attempts : (pool.stateIn w).attempts = called log
  slots : ∀ index slot,
    (pool.stateIn w).slots.get? index = some slot ↔ ⟨index, .ok slot⟩ ∈ log
  succeeded : ∀ index, yielded log index = true ↔
    ∃ attempt < (called log).count index, fault index attempt = none
  once : ∀ index attempt, attempt + 1 < (called log).count index → fault index attempt ≠ none
  follows : ∀ reach earlier, reach :: earlier <:+ log → reach.Follows fault earlier

theorem tells_fresh (fresh : pool.stateIn w = {}) : Tells pool fault [] w where
  attempts := by
    rw [fresh]
    rfl
  slots index slot := by
    rw [fresh]
    simp [SortedMap.get?_empty]
  succeeded index := by simp [yielded, called]
  once index attempt early := by simp [called] at early
  follows reach earlier listed := by simp at listed

theorem Tells.yielded_iff (tells : Tells pool fault log w) :
    yielded log index = true ↔ (pool.stateIn w).slots.get? index ≠ none := by
  rw [ShardPool.yielded_iff, Option.ne_none_iff_exists']
  exact exists_congr fun slot => (tells.slots index slot).symm

theorem Tells.not_yielded (tells : Tells pool fault log w)
    (unopened : (pool.stateIn w).slots.get? index = none) : yielded log index = false := by
  rw [← Bool.not_eq_true, tells.yielded_iff]
  simp [unopened]

theorem yielded_cons (reach : Reach) :
    yielded (reach :: log) index =
      (reach.index == index && reach.answer.isOk || yielded log index) :=
  rfl

theorem follows_cons {reach : Reach} (here : reach.Follows fault log)
    (before : ∀ reach earlier, reach :: earlier <:+ log → reach.Follows fault earlier)
    (reach' : Reach) (earlier : List Reach) (listed : reach' :: earlier <:+ reach :: log) :
    reach'.Follows fault earlier := by
  rcases List.suffix_cons_iff.mp listed with same | inside
  · cases same
    exact here
  · exact before reach' earlier inside

/-- One more call of the factory succeeds, or none but those before it did. -/
theorem exists_attempt_concat (calls : List Nat) (index other : Nat) :
    (∃ attempt < (calls ++ [index]).count other, fault other attempt = none) ↔
      (∃ attempt < calls.count other, fault other attempt = none) ∨
        index = other ∧ fault other (calls.count other) = none := by
  by_cases same : index = other
  · subst same
    simp only [List.count_append, List.count_singleton_self, Nat.lt_succ_iff_lt_or_eq, true_and]
    constructor
    · rintro ⟨attempt, before | rfl, succeeds⟩
      · exact .inl ⟨attempt, before, succeeds⟩
      · exact .inr succeeds
    · rintro (⟨attempt, before, succeeds⟩ | succeeds)
      · exact ⟨attempt, .inl before, succeeds⟩
      · exact ⟨_, .inr rfl, succeeds⟩
  · simp [List.count_append, same]

/-- As long as a shard is not open, all calls for it have failed. -/
theorem Tells.once_concat (tells : Tells pool fault log w) (never : yielded log index = false)
    (other attempt : Nat) (early : attempt + 1 < (called log ++ [index]).count other) :
    fault other attempt ≠ none := by
  by_cases same : index = other
  · subst same
    intro succeeds
    rw [List.count_append, List.count_singleton_self] at early
    have opened : yielded log index = true :=
      (tells.succeeded index).mpr ⟨attempt, Nat.lt_of_succ_lt_succ early, succeeds⟩
    rw [never] at opened
    cases opened
  · have before : (called log ++ [index]).count other = (called log).count other := by
      simp [List.count_append, same]
    rw [before] at early
    exact tells.once other attempt early

/-- One more access is told by the accesses before it, and tells with them what it changed. -/
theorem Tells.access (tells : Tells pool fault log w)
    (reached : Access pool stock fault index w answer w') :
    Tells pool fault (⟨index, answer⟩ :: log) w' := by
  cases reached with
  | @found slot held =>
    have before : yielded log index = true := by simp [tells.yielded_iff, held]
    have kept : called (⟨index, .ok slot⟩ :: log) = called log := by simp [called, before]
    refine ⟨?_, ?_, ?_, ?_, follows_cons ⟨tells.succeeded index, ?_, ?_⟩ tells.follows⟩
    · simp only [kept, tells.attempts]
    · intro other there
      simp only [tells.slots, List.mem_cons, Reach.mk.injEq, Except.ok.injEq]
      constructor
      · exact .inr
      · rintro (⟨rfl, rfl⟩ | listed)
        · exact (tells.slots other there).mp held
        · exact listed
    · intro other
      rw [kept, ← tells.succeeded, yielded_cons]
      by_cases same : index = other
      · subst same
        simp [before]
      · simp [same]
    · rw [kept]
      exact tells.once
    · intro there listed
      rw [← tells.slots, held] at listed
      cases listed
      rfl
    · intro never
      rw [before] at never
      cases never
  | @refused cause unopened fails =>
    have state : pool.stateIn (pool.tried index w) =
        { pool.stateIn w with attempts := (pool.stateIn w).attempts ++ [index] } := stateIn_tried
    have before := tells.not_yielded unopened
    have noted : called (⟨index, .error (.context s!"open shard {index}" cause)⟩ :: log) =
        called log ++ [index] := by simp [called, before]
    rw [tells.attempts] at fails
    refine ⟨?_, ?_, ?_, ?_, follows_cons ⟨tells.succeeded index, ?_, ?_⟩ tells.follows⟩
    · rw [state, noted, tells.attempts]
    · simp [state, tells.slots]
    · intro other
      rw [noted, exists_attempt_concat, ← tells.succeeded, yielded_cons]
      have failed : ¬ (index = other ∧ fault other ((called log).count other) = none) := by
        rintro ⟨rfl, succeeds⟩
        rw [fails] at succeeds
        cases succeeds
      simp only [failed, or_false, Except.isOk, Except.toBool, Bool.and_false, Bool.false_or]
    · rw [noted]
      exact tells.once_concat before
    · intro there listed
      rw [← tells.slots, unopened] at listed
      cases listed
    · intro _
      simp only [fails]
  | @opened slot _ unopened succeeds places =>
    have state := places.stateIn
    rw [stateIn_tried] at state
    have before := tells.not_yielded unopened
    have noted : called (⟨index, .ok slot⟩ :: log) = called log ++ [index] := by
      simp [called, before]
    rw [tells.attempts] at succeeds
    refine ⟨?_, ?_, ?_, ?_, follows_cons ⟨tells.succeeded index, ?_, ?_⟩ tells.follows⟩
    · simp [state, noted, tells.attempts]
    · intro other there
      simp only [state, SortedMap.get?_insert, List.mem_cons, Reach.mk.injEq, Except.ok.injEq,
        ← tells.slots]
      by_cases same : other = index
      · subst same
        simp [unopened, eq_comm]
      · simp [same]
    · intro other
      rw [noted, exists_attempt_concat, ← tells.succeeded, yielded_cons]
      by_cases same : index = other
      · subst same
        simp [succeeds, Except.isOk, Except.toBool]
      · simp [same]
    · rw [noted]
      exact tells.once_concat before
    · intro there listed
      rw [← tells.slots, unopened] at listed
      cases listed
    · intro _
      simp only [succeeds]
      exact ⟨slot, rfl⟩

/-- The factory has succeeded for as many indexes as there are open shards. -/
theorem Tells.size (tells : Tells pool fault log w) :
    (pool.stateIn w).slots.size = ((called log).toFinset.filter fun index =>
      ∃ attempt < (called log).count index, fault index attempt = none).card := by
  have distinct : (pool.stateIn w).slots.keys.Nodup := SortedMap.keys_nodup _
  have length : (pool.stateIn w).slots.size = (pool.stateIn w).slots.keys.length := by
    simp [SortedMap.size, SortedMap.keys]
  rw [length, ← List.toFinset_card_of_nodup distinct]
  congr 1
  ext index
  simp only [List.mem_toFinset, Finset.mem_filter, ← tells.succeeded, tells.yielded_iff,
    SortedMap.mem_keys_iff, SortedMap.contains, Option.isSome_iff_ne_none]
  constructor
  · intro opened
    refine ⟨?_, opened⟩
    obtain ⟨attempt, early, -⟩ := (tells.succeeded index).mp (tells.yielded_iff.mpr opened)
    exact List.count_pos_iff.mp (Nat.zero_lt_of_lt early)
  · exact And.right

/-! ## Runs -/

/-- No shard is opened, and none is tried to be opened. -/
structure OpensNone (pool : ShardPool) (w w' : World) : Prop where
  attempts : (pool.stateIn w').attempts = (pool.stateIn w).attempts
  slots : (pool.stateIn w').slots = (pool.stateIn w).slots

theorem frame_opensNone : Frame (OpensNone pool) where
  refl _ := ⟨rfl, rfl⟩
  trans first second :=
    ⟨second.attempts.trans first.attempts, second.slots.trans first.slots⟩

theorem opensNone_of_eq (same : pool.stateIn w' = pool.stateIn w) : OpensNone pool w w' := by
  constructor <;> rw [same]

theorem opensNone_close (onDemand : pool.opening = .onDemand fault)
    (apart : ∀ slot, Moves (fun w w' => pool.stateIn w' = pool.stateIn w) (closeSlot slot)) :
    Moves (OpensNone pool) (pool.close closeSlot) := by
  have frame : Frame (OpensNone pool) := frame_opensNone
  have reads : Moves (OpensNone pool) pool.read := frame.refl
  have reports (event : Event) : Moves (OpensNone pool) (StoreM.report event) := by
    intro w
    exact opensNone_of_eq rfl
  have marks : Moves (OpensNone pool) (pool.update ({ · with closed := true })) := by
    intro w
    have state : pool.stateIn (stateAfter (pool.update ({ · with closed := true })) w) =
        { pool.stateIn w with closed := true } := stateIn_changePool w _
    constructor <;> rw [state]
  unfold ShardPool.close
  apply Moves.bind frame reads
  intro state
  split
  · exact Moves.pure frame ()
  · apply Moves.bind frame marks
    intro _
    rw [onDemand]
    apply Moves.bind frame
    · apply Moves.gatherFailures frame
      intro action listed
      obtain ⟨⟨index, slot⟩, -, rfl⟩ := List.mem_map.mp listed
      exact fun w => opensNone_of_eq (apart slot w)
    · intro failures
      exact Moves.bind frame (reports _) fun _ => Moves.ofExcept frame _

/-- From one world to another, the pool's state has changed as the accesses tell. -/
def Changes (pool : ShardPool) (fault : Nat → Nat → Option Error) (log : List Reach)
    (w w' : World) : Prop :=
  ∀ before, Tells pool fault before w → Tells pool fault (log ++ before) w'

theorem Changes.seq {w'' : World} (first : Changes pool fault log w w')
    (second : Changes pool fault log' w' w'') : Changes pool fault (log' ++ log) w w'' := by
  intro before tells
  rw [List.append_assoc]
  exact second _ (first before tells)

theorem Changes.access (reached : Access pool stock fault index w answer w') :
    Changes pool fault [⟨index, answer⟩] w w' :=
  fun _ tells => tells.access reached

theorem Changes.quiet (opensNone : OpensNone pool w w') : Changes pool fault [] w w' := by
  intro before tells
  refine ⟨opensNone.attempts.trans tells.attempts, ?_, tells.succeeded, tells.once, tells.follows⟩
  rw [opensNone.slots]
  exact tells.slots

/-- Whatever is done with a pool, its accesses tell the state that it leaves. -/
theorem Calls.changes (onDemand : pool.opening = .onDemand fault)
    (apart : ∀ slot, Moves (fun w w' => pool.stateIn w' = pool.stateIn w) (closeSlot slot))
    (calls : Calls pool stock closeSlot w log w') : Changes pool fault log w w' := by
  have reached (index : Nat) (w : World) := Changes.access (access onDemand stock index w)
  induction calls using Calls.rec (motive_2 := fun _ _ s log _ s' _ =>
    Changes pool fault log s.1 s'.1) with
  | idle w => exact Changes.quiet (frame_opensNone.refl w)
  | get w key => exact reached (pool.owner key) w
  | iterate passes told => exact told
  | close w => exact Changes.quiet (opensNone_close onDemand apart w)
  | aside same => exact Changes.quiet (opensNone_of_eq same)
  | seq first second told toldLater => exact told.seq toldLater
  | done s => exact Changes.quiet (frame_opensNone.refl s.1)
  | @refused τ visit index rest e s reach =>
    have here := reached index s.1
    rwa [reach] at here
  | @stopped τ visit index rest log slot e s s' reach run calls told =>
    have here := reached index s.1
    rw [reach] at here
    exact here.seq told
  | @visited τ visit index rest log later answer slot s s' s'' reach run calls passes told
      toldLater =>
    have here := reached index s.1
    rw [reach] at here
    exact (here.seq told).seq toldLater

section Enumerating

variable {τ : Type} {visit : Slot → VisitM τ Unit}

/-- The enumeration of the given shards. -/
def iterateFrom (pool : ShardPool) (stock : Nat) (visit : Slot → VisitM τ Unit)
    (indexes : List Nat) : VisitM τ Unit :=
  indexes.forM fun index => do
    let slot ← StoreM.visiting (pool.slot stock index)
    visit slot

/-- Every enumeration whose visitor does no more with the pool than can be done with it goes as
    stated, shard by shard. -/
theorem passes_iterate (visits : ∀ slot s, ∃ log,
      Calls pool stock closeSlot s.1 log (stateAfter (visit slot) s).1) (indexes : List Nat)
    (s : World × τ) :
    ∃ log, Passes pool stock closeSlot visit indexes s log
      (outcome (pool.iterateFrom stock visit indexes) s)
      (stateAfter (pool.iterateFrom stock visit indexes) s) := by
  induction indexes generalizing s with
  | nil => exact ⟨[], .done s⟩
  | cons index rest ih =>
    obtain ⟨w, t⟩ := s
    cases reach : (pool.slot stock index).run w with
    | error e w₁ =>
      have run : (pool.iterateFrom stock visit (index :: rest)).run (w, t) = .error e (w₁, t) := by
        simp only [iterateFrom, List.forM, EStateM.run_bind, StoreM.run_visiting, reach]
      rw [outcome_error run, stateAfter_error run, ← stateAfter_error reach]
      exact ⟨_, .refused (outcome_error reach)⟩
    | ok slot w₁ =>
      have first : (pool.iterateFrom stock visit (index :: rest)).run (w, t) =
          (visit slot >>= fun _ => pool.iterateFrom stock visit rest).run (w₁, t) := by
        simp only [iterateFrom, List.forM, EStateM.run_bind, StoreM.run_visiting, reach]
      have found : outcome (pool.slot stock index) w = .ok slot := outcome_ok reach
      have now : stateAfter (pool.slot stock index) w = w₁ := stateAfter_ok reach
      obtain ⟨log, calls⟩ := visits slot (w₁, t)
      cases visited : (visit slot).run (w₁, t) with
      | error e s₂ =>
        rw [stateAfter_error visited] at calls
        have run : (pool.iterateFrom stock visit (index :: rest)).run (w, t) = .error e s₂ := by
          rw [first, EStateM.run_bind, visited]
        rw [outcome_error run, stateAfter_error run]
        subst now
        exact ⟨_, .stopped found visited calls⟩
      | ok _ s₂ =>
        rw [stateAfter_ok visited] at calls
        have run : (pool.iterateFrom stock visit (index :: rest)).run (w, t) =
            (pool.iterateFrom stock visit rest).run s₂ := by
          rw [first, EStateM.run_bind, visited]
        have answers : outcome (pool.iterateFrom stock visit (index :: rest)) (w, t) =
            outcome (pool.iterateFrom stock visit rest) s₂ := by simp only [outcome, run]
        have ends : stateAfter (pool.iterateFrom stock visit (index :: rest)) (w, t) =
            stateAfter (pool.iterateFrom stock visit rest) s₂ := by simp only [stateAfter, run]
        obtain ⟨log', later⟩ := ih s₂
        rw [answers, ends]
        subst now
        exact ⟨_, .visited found visited calls later⟩

end Enumerating

/-- In a run of a new pool that opens its shards on demand, the factory is called for a shard when
    an access reaches it, by a key that is routed to it or by an enumeration that has visited all
    shards before it, and when no earlier call for the shard has succeeded; it is not called at any
    other time, and it is not called by closing the pool. All accesses after the first success
    answer with the same store. If a call fails then the access fails in the context of opening the
    shard, which stays closed, and the next access calls again. The open shards are those for which
    a call has succeeded, and for none of them more than one call has. -/
theorem shards_open_once_on_demand {start : World} (onDemand : pool.opening = .onDemand fault)
    (apart : ∀ slot, Moves (fun w w' => pool.stateIn w' = pool.stateIn w) (closeSlot slot))
    (fresh : pool.stateIn start = {}) (calls : Calls pool stock closeSlot start log w) :
    (pool.stateIn w).attempts = called log ∧
      (∀ reach earlier, reach :: earlier <:+ log → reach.Follows fault earlier) ∧
      (∀ index attempt, attempt + 1 < (pool.stateIn w).attempts.count index →
        fault index attempt ≠ none) ∧
      (∀ index slot, (pool.stateIn w).slots.get? index = some slot ↔ ⟨index, .ok slot⟩ ∈ log) ∧
      (pool.stateIn w).slots.size = ((pool.stateIn w).attempts.toFinset.filter fun index =>
        ∃ attempt < (pool.stateIn w).attempts.count index, fault index attempt = none).card ∧
      (∀ {τ : Type} (visit : Slot → VisitM τ Unit) (s : World × τ),
        (∀ slot s, ∃ log, Calls pool stock closeSlot s.1 log (stateAfter (visit slot) s).1) →
        ∃ log, Passes pool stock closeSlot visit (List.range pool.count) s log
          (outcome (pool.iterate stock visit) s) (stateAfter (pool.iterate stock visit) s)) ∧
      Moves (OpensNone pool) (pool.close closeSlot) := by
  have tells : Tells pool fault log w := by
    have changed := calls.changes onDemand apart [] (tells_fresh fresh)
    rwa [List.append_nil] at changed
  have count := tells.size
  rw [← tells.attempts] at count
  refine ⟨tells.attempts, tells.follows, ?_, tells.slots, count, ?_, opensNone_close onDemand apart⟩
  · rw [tells.attempts]
    exact tells.once
  · intro τ visit s visits
    exact passes_iterate visits (List.range pool.count) s

end Opening

/-! ## A shard that is opened at the second attempt -/

/-- A pool of two shards, of which the second one cannot be opened the first time. -/
def reluctantToOpen : ShardPool where
  state := ⟨0⟩
  hash key := UInt32.ofNat key.length
  count := 2
  opening := .onDemand fun index attempt =>
    if index = 1 ∧ attempt = 0 then some (.backend "io") else none

/-- A look at every shard. -/
def lookAround : VisitM Unit Unit := reluctantToOpen.iterate 0 fun _ => pure ()

def refusedOnce : World := stateAfter (reluctantToOpen.slot 0 1) { randomness _ := 0 }

def secondTry : World := stateAfter (reluctantToOpen.slot 0 1) refusedOnce

def allOpen : World := (stateAfter lookAround (secondTry, ())).1

/-- The shard that could be opened at the second attempt, the first one and the second one again. -/
theorem calls_allOpen : Calls reluctantToOpen 0 (closeIn []) { randomness _ := 0 }
    [⟨1, .ok (.fresh ⟨0⟩)⟩, ⟨0, .ok (.fresh ⟨1⟩)⟩, ⟨1, .ok (.fresh ⟨0⟩)⟩,
      ⟨1, .error (.context "open shard 1" (.backend "io"))⟩]
    (stateAfter (reluctantToOpen.close (closeIn [])) allOpen) := by
  have tried : Calls reluctantToOpen 0 (closeIn []) { randomness _ := 0 }
      [⟨1, .error (.context "open shard 1" (.backend "io"))⟩] refusedOnce := .get _ [7]
  have retried : Calls reluctantToOpen 0 (closeIn []) refusedOnce [⟨1, .ok (.fresh ⟨0⟩)⟩]
      secondTry := .get _ [7]
  have looked : Passes reluctantToOpen 0 (closeIn []) (fun _ => (pure () : VisitM Unit Unit))
      [0, 1] (secondTry, ())
      (([] ++ ([] ++ [⟨1, .ok (.fresh ⟨0⟩)⟩])) ++ ([] ++ [⟨0, .ok (.fresh ⟨1⟩)⟩])) (.ok ())
      (allOpen, ()) := .visited rfl rfl (.idle _) (.visited rfl rfl (.idle _) (.done _))
  have opened := ((tried.seq retried).seq (.iterate looked)).seq (.close allOpen)
  exact opened

theorem shards_open_once_on_demand_retrying :
    outcome (reluctantToOpen.slot 0 1) { randomness _ := 0 } =
        .error (.context "open shard 1" (.backend "io")) ∧
      (reluctantToOpen.stateIn (stateAfter (reluctantToOpen.close (closeIn [])) allOpen)).attempts =
        [1, 1, 0] ∧
      (reluctantToOpen.stateIn
        (stateAfter (reluctantToOpen.close (closeIn [])) allOpen)).slots.size = 2 := by
  have apart : ∀ slot, Moves
      (fun w w' => reluctantToOpen.stateIn w' = reluctantToOpen.stateIn w) (closeIn [] slot) := by
    rintro (position | cell) w <;> rfl
  obtain ⟨attempts, -, -, -, size, -⟩ :=
    shards_open_once_on_demand rfl apart rfl calls_allOpen
  refine ⟨rfl, attempts, ?_⟩
  rw [size, attempts]
  decide

end ShardPool

end StoreGraph
