import StoreGraph.Proofs.Queue.Orphan

/-! # Runs over a failing store

A run opens a queue over an empty store and goes through operations one after another, where every
call of the store may fail without effect. A process that stops between two writes and starts again
is the run in which the second write fails and `reopen` follows. The run keeps a record of what was
answered, and `Tracked` says how the store is explained by this record: which put acknowledged an
item, and which operation has lost the oldest one.
-/

namespace StoreGraph

namespace StoredQueue

/-- A live queue in a world. -/
structure Moment where
  queue : StoredQueue
  world : World

/-- An operation of a run with its answer, and the moments before and after it. -/
structure Turn where
  op : QueueOp
  answer : Except Error QueueAnswer
  before : Moment
  after : Moment

/-- Runs over a probe that is empty at first. Every operation meets fault rules of its own, under
    which no read fails as if the key were absent. -/
inductive Ran (cell : Ref .probe) (traits : ProbeTraits) : List Turn → Moment → Prop where
  | opened {w q w'} (candid : FaultRule.Candid (w.rules cell)) (empty : w.probed cell = .empty)
      (run : (openOn (.probe cell traits)).run w = .ok q w') : Ran cell traits [] ⟨q, w'⟩
  | turn {turns now answer q w} (earlier : Ran cell traits turns now) (op : QueueOp)
      (rules : List FaultRule) (candid : FaultRule.Candid rules)
      (run : (performUnder cell rules now.queue op).run now.world = .ok (answer, q) w) :
      Ran cell traits (turns ++ [⟨op, answer, now, ⟨q, w⟩⟩]) ⟨q, w⟩

/-- What comes of an operation that meets these fault rules. -/
def Moment.next (now : Moment) (cell : Ref .probe) (rules : List FaultRule) (op : QueueOp) : Turn :=
  match (performUnder cell rules now.queue op).run now.world with
  | .ok (answer, q) w => ⟨op, answer, now, ⟨q, w⟩⟩
  | .error e w => ⟨op, .error e, now, ⟨now.queue, w⟩⟩

/-- A run can go on with every operation. -/
theorem Ran.next {cell : Ref .probe} {traits : ProbeTraits} {turns : List Turn} {now : Moment}
    (ran : Ran cell traits turns now) {rules : List FaultRule} (candid : FaultRule.Candid rules)
    (op : QueueOp) :
    Ran cell traits (turns ++ [now.next cell rules op]) (now.next cell rules op).after := by
  have run : ∃ answer q w, (performUnder cell rules now.queue op).run now.world =
      .ok (answer, q) w := by
    simp only [performUnder, perform, EStateM.run_bind, Probe.run_setRules, run_attempt]
    cases (now.queue.act op).run (now.world.ruled cell rules) with
    | ok outcome w => exact ⟨_, _, _, rfl⟩
    | error e w => exact ⟨_, _, _, rfl⟩
  obtain ⟨answer, q, w, run⟩ := run
  have same : now.next cell rules op = ⟨op, answer, now, ⟨q, w⟩⟩ := by
    rw [Moment.next, run]
  rw [same]
  exact .turn ran op rules candid run

/-- The numbers that the puts of a run were told. -/
def acknowledgedNumbers (turns : List Turn) : List Nat := storedNumbers (turns.map (·.answer))

/-- A put of these data was told that this is their number. -/
def Acknowledged (turns : List Turn) (number : Nat) (data : Bytes) : Prop :=
  ∃ turn ∈ turns, turn.op = .put data ∧ turn.answer = .ok (.stored number)

/-- The operation was to take the oldest item away, and failed after it had deleted the entry of
    this number. -/
structure Turn.Tears (turn : Turn) (cell : Ref .probe) (number : UInt64) : Prop where
  takes : turn.op.Takes
  failed : ∃ e, turn.answer = .error e
  present : (turn.before.world.probed cell).get? (Word.toBytes number) ≠ none
  deleted : (turn.after.world.probed cell).get? (Word.toBytes number) = none

variable {cell : Ref .probe} {traits : ProbeTraits} {f f' : Fifo} {turns : List Turn}
  {entries entries' : SortedMap Bytes Bytes} {op : QueueOp} {answer : Except Error QueueAnswer}
  {now : Moment}

theorem Acknowledged.later {number : Nat} {data : Bytes} (known : Acknowledged turns number data)
    (more : List Turn) : Acknowledged (turns ++ more) number data := by
  obtain ⟨turn, listed, put, told⟩ := known
  exact ⟨turn, List.mem_append_left _ listed, put, told⟩

theorem acknowledgedNumbers_append (turns more : List Turn) :
    acknowledgedNumbers (turns ++ more) =
      acknowledgedNumbers turns ++ acknowledgedNumbers more := by
  rw [acknowledgedNumbers, List.map_append, storedNumbers, List.filterMap_append]
  rfl

/-- The numbers of the acknowledged puts go on from the number used last. -/
theorem Effect.numbers (effect : Effect f entries op answer f' entries') :
    List.range' 1 f'.latest = List.range' 1 f.latest ++ storedNumbers [answer] := by
  cases effect with
  | failed | orphaned | torn => exact (List.append_nil _).symm
  | @looked _ answer _ unnumbered =>
    have silent : storedNumbers [.ok answer] = [] := by
      cases answer with
      | stored n => exact absurd rfl (unnumbered n)
      | _ => rfl
    rw [silent, List.append_nil]
  | stored data =>
    rw [f.latest_put, List.range'_concat, Nat.one_mul, Nat.add_comm 1]
    rfl
  | @taken _ answer data rest items answers =>
    have silent : storedNumbers [.ok answer] = [] := by
      obtain ⟨-, rfl⟩ | ⟨-, rfl⟩ := answers
      · rfl
      · rfl
    have counted : Fifo.latest ⟨f.taken + 1, rest⟩ = f.latest := by
      simp only [Fifo.latest, items, List.length_cons]
      omega
    rw [silent, List.append_nil, counted]

/-- What an operation does to the entry of the oldest item. -/
inductive FrontEffect (f : Fifo) (entries : SortedMap Bytes Bytes) (op : QueueOp)
    (answer : Except Error QueueAnswer) (f' : Fifo) (entries' : SortedMap Bytes Bytes) : Prop where
  | same (taken : f'.taken = f.taken) (pending : f'.items ≠ [])
      (front : entries'.get? (itemKey (f.taken + 1)) = entries.get? (itemKey (f.taken + 1)))
  | torn (taken : f'.taken = f.taken) (pending : f'.items ≠ []) (takes : op.Takes)
      (failed : ∃ e, answer = .error e) (erased : entries' = entries.erase (itemKey (f.taken + 1)))
  | taken (taken : f'.taken = f.taken + 1) (done : ∃ a, answer = .ok a)
      (front : f'.items ≠ [] → entries'.get? (itemKey (f'.taken + 1)) ≠ none)

theorem Effect.front (effect : Effect f entries op answer f' entries') (fits : f.Fits)
    (keeps : Keeps entries f) (pending : f.items ≠ []) :
    FrontEffect f entries op answer f' entries' := by
  simp only [Fifo.Fits, Fifo.latest] at fits
  have positive := List.length_pos_iff.mpr pending
  have apart : itemKey (f.taken + 1) ≠ itemKey (f.latest + 1) :=
    itemKey_ne (by omega) (by rw [Fifo.latest]; omega) (by rw [Fifo.latest]; omega)
  cases effect with
  | failed | looked => exact .same rfl pending rfl
  | orphaned data => exact .same rfl pending (SortedMap.get?_insert_of_ne _ apart _)
  | stored data =>
    refine .same rfl (by simp [Fifo.put]) ?_
    rw [SortedMap.get?_insert_of_ne _ (itemKey_ne_latestKey _),
      SortedMap.get?_insert_of_ne _ apart]
  | torn takes e => exact .torn rfl pending takes ⟨e, rfl⟩ rfl
  | @taken _ _ data rest items =>
    apply FrontEffect.taken rfl ⟨_, rfl⟩
    intro more
    have left : 0 < rest.length := List.length_pos_iff.mpr more
    rw [items, List.length_cons] at fits
    have next := keeps.item 1 (by rw [items, List.length_cons]; omega) Nat.one_pos
    have apart : itemKey (f.taken + 1 + 1) ≠ itemKey (f.taken + 1) :=
      itemKey_ne (by omega) (by omega) (by omega)
    rw [SortedMap.get?_insert_of_ne _ (itemKey_ne_oldestKey _),
      SortedMap.get?_erase_of_ne _ apart, next]
    exact Option.some_ne_none _

theorem Effect.taken_le (effect : Effect f entries op answer f' entries') : f.taken ≤ f'.taken := by
  cases effect with
  | failed | looked | orphaned | stored | torn => exact Nat.le_refl _
  | taken => exact Nat.le_succ _

/-- An item that comes into an empty queue is stored. -/
theorem Effect.first (effect : Effect f entries op answer f' entries') (empty : f.items = [])
    (more : f'.items ≠ []) : entries'.get? (itemKey (f'.taken + 1)) ≠ none := by
  cases effect with
  | failed | looked | orphaned | torn => exact absurd empty more
  | stored data =>
    have front : f.latest = f.taken := by simp [Fifo.latest, empty]
    simp only [Fifo.put, front]
    rw [SortedMap.get?_insert_of_ne _ (itemKey_ne_latestKey _), SortedMap.get?_insert_self]
    exact Option.some_ne_none _
  | taken items =>
    rw [empty] at items
    cases items

/-- The record of a run explains the entries of the store. -/
structure Tracked (cell : Ref .probe) (turns : List Turn) (f : Fifo)
    (entries : SortedMap Bytes Bytes) : Prop where
  keeps : Keeps entries f
  numbers : acknowledgedNumbers turns = List.range' 1 f.latest
  acknowledged : ∀ i (inside : i < f.items.length), Acknowledged turns (f.taken + 1 + i) f.items[i]
  /-- If the oldest item is gone, then some operation has lost it. -/
  lost : f.items ≠ [] → entries.get? (itemKey (f.taken + 1)) = none →
    ∃ turn ∈ turns, turn.Tears cell (UInt64.ofNat (f.taken + 1))
  /-- A lost item that is still counted stays away. -/
  torn : ∀ turn ∈ turns, ∀ number, turn.Tears cell number → number.toNat ≤ f.taken ∨
    number = UInt64.ofNat (f.taken + 1) ∧ f.items ≠ [] ∧ entries.get? (itemKey (f.taken + 1)) = none

theorem tracked_empty : Tracked cell [] {} .empty where
  keeps := keeps_empty
  numbers := rfl
  acknowledged i inside := absurd inside (Nat.not_lt_zero i)
  lost pending := absurd rfl pending
  torn turn listed := by cases listed

/-- An operation that has lost an item failed, and deleted the oldest one. -/
theorem Effect.of_tears {turn : Turn} {number : UInt64} (tears : turn.Tears cell number)
    (effect : Effect f (turn.before.world.probed cell) turn.op turn.answer f'
      (turn.after.world.probed cell)) :
    f' = f ∧ f.items ≠ [] ∧ number = UInt64.ofNat (f.taken + 1) := by
  obtain ⟨takes, ⟨e, failed⟩, present, deleted⟩ := tears
  generalize turn.op = op at effect takes
  generalize turn.answer = answer at effect failed
  generalize turn.after.world.probed cell = entries' at effect deleted
  cases effect with
  | failed | looked => exact absurd deleted present
  | orphaned data => simp [QueueOp.Takes] at takes
  | stored | taken => cases failed
  | torn _ _ pending =>
    refine ⟨rfl, pending, ?_⟩
    by_cases same : Word.toBytes number = itemKey (f.taken + 1)
    · exact Word.toBytes_injective same
    · rw [SortedMap.get?_erase_of_ne _ same] at deleted
      exact absurd deleted present

/-- The items after an operation were all acknowledged, if those before it were. -/
theorem Effect.acknowledged {turn : Turn}
    (effect : Effect f entries turn.op turn.answer f' entries')
    (known : ∀ i (inside : i < f.items.length), Acknowledged turns (f.taken + 1 + i) f.items[i])
    (i : Nat) (inside : i < f'.items.length) :
    Acknowledged (turns ++ [turn]) (f'.taken + 1 + i) f'.items[i] := by
  obtain ⟨op, answer, before, after⟩ := turn
  dsimp only at effect
  cases effect with
  | failed | looked | orphaned | torn => exact (known i inside).later _
  | stored data =>
    simp only [Fifo.put, List.length_append, List.length_singleton] at inside ⊢
    by_cases last : i = f.items.length
    · subst last
      rw [List.getElem_concat_length rfl, show f.taken + 1 + f.items.length = f.latest + 1 by
        rw [Fifo.latest]; omega]
      exact ⟨_, List.mem_append_right _ List.mem_cons_self, rfl, rfl⟩
    · have before : i < f.items.length := by omega
      rw [List.getElem_append_left before]
      exact (known i before).later _
  | @taken _ answer data rest items =>
    have behind : i + 1 < f.items.length := by
      rw [items]
      exact Nat.succ_lt_succ inside
    have there := (known (i + 1) behind).later [⟨op, .ok answer, before, after⟩]
    simp only [items, List.getElem_cons_succ] at there
    rw [show f.taken + 1 + 1 + i = f.taken + 1 + (i + 1) by omega]
    exact there

/-- One more operation is explained if the run before it was. -/
theorem Tracked.turn {turn : Turn}
    (tracked : Tracked cell turns f (turn.before.world.probed cell)) (fits : f.Fits)
    (effect : Effect f (turn.before.world.probed cell) turn.op turn.answer f'
      (turn.after.world.probed cell)) :
    Tracked cell (turns ++ [turn]) f' (turn.after.world.probed cell) where
  keeps := effect.keeps fits tracked.keeps
  numbers := by
    rw [acknowledgedNumbers_append, tracked.numbers, effect.numbers]
    rfl
  acknowledged := effect.acknowledged tracked.acknowledged
  lost := by
    intro more gone
    by_cases pending : f.items = []
    · exact absurd gone (effect.first pending more)
    · cases effect.front fits tracked.keeps pending with
      | same taken _ front =>
        rw [taken, front] at gone
        obtain ⟨turn', listed, tears⟩ := tracked.lost pending gone
        rw [taken]
        exact ⟨turn', List.mem_append_left _ listed, tears⟩
      | torn taken _ takes failed erased =>
        rw [taken]
        by_cases before : (turn.before.world.probed cell).get? (itemKey (f.taken + 1)) = none
        · obtain ⟨turn', listed, tears⟩ := tracked.lost pending before
          exact ⟨turn', List.mem_append_left _ listed, tears⟩
        · rw [taken] at gone
          exact ⟨turn, List.mem_append_right _ List.mem_cons_self, takes, failed, before, gone⟩
      | taken _ _ front => exact absurd gone (front more)
  torn := by
    intro turn' listed number tears
    obtain earlier | new := List.mem_append.mp listed
    · obtain below | ⟨same, pending, gone⟩ := tracked.torn turn' earlier number tears
      · exact .inl (Nat.le_trans below effect.taken_le)
      · cases effect.front fits tracked.keeps pending with
        | same taken pending front =>
          rw [taken, front]
          exact .inr ⟨same, pending, gone⟩
        | torn taken pending _ _ erased =>
          rw [taken, erased]
          exact .inr ⟨same, pending, SortedMap.get?_erase_self _ _⟩
        | taken taken =>
          have passed : number.toNat = f'.taken := by
            simp only [Fifo.Fits, Fifo.latest] at fits
            rw [taken, same]
            exact UInt64.toNat_ofNat_of_lt' (by omega)
          exact .inl (Nat.le_of_eq passed)
    · rw [List.mem_singleton.mp new] at tears
      obtain ⟨rfl, pending, rfl⟩ := effect.of_tears tears
      exact .inr ⟨rfl, pending, tears.deleted⟩

theorem Tracked.stored (tracked : Tracked cell turns f entries)
    {number : Nat} (behind : f.taken + 1 < number) (inside : number ≤ f.latest) :
    ∃ data, Acknowledged turns number data ∧ entries.get? (itemKey number) = some data := by
  obtain ⟨i, rfl⟩ : ∃ i, number = f.taken + 1 + i := ⟨number - (f.taken + 1), by omega⟩
  rw [Fifo.latest] at inside
  have there : i < f.items.length := by omega
  exact ⟨f.items[i], tracked.acknowledged i there, tracked.keeps.item i there (by omega)⟩

theorem Tracked.front (tracked : Tracked cell turns f entries)
    (pending : f.items ≠ []) :
    (∃ data, Acknowledged turns (f.taken + 1) data ∧
      entries.get? (itemKey (f.taken + 1)) = some data) ∨
    entries.get? (itemKey (f.taken + 1)) = none ∧
      ∃ turn ∈ turns, turn.Tears cell (UInt64.ofNat (f.taken + 1)) := by
  obtain ⟨data, rest, items⟩ := List.exists_cons_of_ne_nil pending
  cases tracked.keeps.front data rest items with
  | inr gone => exact .inr ⟨gone, tracked.lost pending gone⟩
  | inl there =>
    have known := tracked.acknowledged 0 (by simp [items])
    simp only [items, List.getElem_cons_zero, Nat.add_zero] at known
    exact .inl ⟨data, known, there⟩

/-! ## Whole runs -/

/-- The moments before and after an operation hold abstract queues, and the operation has one of the
    effects that operations can have. -/
structure Explained (cell : Ref .probe) (traits : ProbeTraits) (turn : Turn) (f f' : Fifo) :
    Prop where
  before : turn.before.queue = probing cell traits f
  after : turn.after.queue = probing cell traits f'
  fits : f'.Fits
  keeps : Keeps (turn.before.world.probed cell) f
  effect : Effect f (turn.before.world.probed cell) turn.op turn.answer f'
    (turn.after.world.probed cell)

theorem Effect.latest_le (effect : Effect f entries op answer f' entries') :
    f.latest ≤ f'.latest := by
  rw [effect.latest_eq]
  cases answer with
  | ok => exact Nat.le_add_right _ _
  | error => exact Nat.le_refl _

theorem Explained.fits_before {turn : Turn} (explained : Explained cell traits turn f f') :
    f.Fits :=
  Nat.lt_of_le_of_lt explained.effect.latest_le explained.fits

/-- What one operation of a run does to the queue and to the entries of the store. -/
theorem effect_of_run {rules : List FaultRule} {q : StoredQueue} {w : World}
    (live : now.queue = probing cell traits f) (fits : f.Fits)
    (keeps : Keeps (now.world.probed cell) f) (candid : FaultRule.Candid rules)
    (run : (performUnder cell rules now.queue op).run now.world = .ok (answer, q) w) :
    ∃ f', q = probing cell traits f' ∧
      Effect f (now.world.probed cell) op answer f' (w.probed cell) := by
  have honest : FaultRule.Candid ((now.world.ruled cell rules).rules cell) := by
    rw [World.rules_ruled]
    exact candid
  have held : Keeps ((now.world.ruled cell rules).probed cell) f := by
    rw [World.probed_ruled]
    exact keeps
  obtain ⟨answer', f', w', run', effect⟩ := performs traits op honest fits held
  rw [live] at run
  cases run'.symm.trans run
  rw [World.probed_ruled] at effect
  exact ⟨f', rfl, effect⟩

/-- The store is explained by the record throughout a run, and so is every single operation. -/
theorem Ran.tracked (ran : Ran cell traits turns now)
    (room : (acknowledgedNumbers turns).length < UInt64.size - 1) :
    ∃ f, now.queue = probing cell traits f ∧ f.Fits ∧ Tracked cell turns f (now.world.probed cell) ∧
      ∀ turn ∈ turns, ∃ f₁ f₂, Explained cell traits turn f₁ f₂ := by
  induction ran with
  | @opened w q w' candid empty run =>
    have fits : Fifo.Fits {} := show 0 < UInt64.size - 1 by decide
    have keeps : Keeps (w.probed cell) {} := by
      rw [empty]
      exact keeps_empty
    cases tries_openOn traits candid fits keeps with
    | fails _ _ run' => cases run'.symm.trans run
    | answers reading run' =>
      cases run'.symm.trans run
      refine ⟨{}, rfl, fits, ?_, fun _ listed => absurd listed List.not_mem_nil⟩
      rw [reading.entries, empty]
      exact tracked_empty
  | @turn turns now answer q w ran op rules candid run ih =>
    have more := room
    rw [acknowledgedNumbers_append, List.length_append] at more
    obtain ⟨f, live, fits, tracked, explained⟩ := ih (by omega)
    obtain ⟨f', rfl, effect⟩ := effect_of_run live fits tracked.keeps candid run
    have tracked' : Tracked cell (turns ++ [⟨op, answer, now, ⟨probing cell traits f', w⟩⟩]) f'
        (w.probed cell) :=
      tracked.turn fits effect
    have fits' : f'.Fits := by
      rw [tracked'.numbers, List.length_range'] at room
      exact room
    refine ⟨f', rfl, fits', tracked', fun turn listed => ?_⟩
    obtain earlier | new := List.mem_append.mp listed
    · exact explained turn earlier
    · rw [List.mem_singleton.mp new]
      exact ⟨f, f', live, rfl, fits', tracked.keeps, effect⟩

/-- The run that is described by an earlier part of the record. -/
theorem Ran.split {earlier later : List Turn} {turn : Turn}
    (ran : Ran cell traits (earlier ++ turn :: later) now) :
    Ran cell traits earlier turn.before ∧ Ran cell traits (earlier ++ [turn]) turn.after := by
  generalize record : earlier ++ turn :: later = turns at ran
  induction ran generalizing later with
  | opened => simp at record
  | @turn turns now answer q w ran op rules candid run ih =>
    obtain rfl | ⟨later, last, rfl⟩ := List.eq_nil_or_concat later
    · obtain ⟨rfl, same⟩ := List.append_inj' record rfl
      cases same
      exact ⟨ran, .turn ran op rules candid run⟩
    · rw [List.concat_eq_append, ← List.cons_append, ← List.append_assoc] at record
      exact ih (List.append_inj' record rfl).1

/-! ## Runs on fixed inputs -/

/-- Rules under which the writes of one key fail. -/
def refusing (key : Bytes) : List FaultRule :=
  [{ op := .put, key := some key, error := .backend "io" }]

theorem candid_refusing (key : Bytes) : FaultRule.Candid (refusing key) := by
  simp [refusing, FaultRule.Candid]

/-- A queue that was just opened over an empty probe. -/
def fresh : Moment where
  queue := ⟨.probe ⟨0⟩ {}, ⟨1, 0⟩⟩
  world := stateAfter (openOn (.probe ⟨0⟩ {})) { randomness := fun _ => 0 }

theorem ran_fresh : Ran ⟨0⟩ {} [] fresh :=
  .opened (w := { randomness := fun _ => 0 }) FaultRule.candid_nil rfl rfl

end StoredQueue

end StoreGraph
