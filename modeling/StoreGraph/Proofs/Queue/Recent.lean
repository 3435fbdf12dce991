import StoreGraph.Proofs.Queue.Bounded

/-! # What a bounded queue keeps

A run opens a bounded queue over an empty store and goes through operations one after another, where
every call of the store may fail without effect and the queue may be opened again with another
limit. `Tracked` says how the queue is explained by the puts that were acknowledged so far: it is
the end of their list. A `put` succeeds whenever both of its own writes do, and if its trimming
meets no failure then it leaves as many of the last items as the limit allows, however many there
were before (`bounded_queue_keeps_most_recent`).
-/

namespace StoreGraph

/-- What can be done with a bounded queue. -/
inductive BoundedOp where
  | put (data : Bytes)
  | peek
  | discard
  | get
  /-- Drop the queue, and open it again on the same store with a limit. -/
  | reopen (limit : UInt64)

/-- What is done with the queue below. -/
def BoundedOp.below : BoundedOp → QueueOp
  | put data => .put data
  | peek => .peek
  | discard => .discard
  | get => .get
  | reopen _ => .reopen

namespace BoundedQueue

def act (q : BoundedQueue) : BoundedOp → StoreM (QueueAnswer × BoundedQueue)
  | .put data => do
    let q' ← q.put data
    return (.stored q'.queue.range.latest.toNat, q')
  | .peek => return (.data (← q.peek), q)
  | .discard => return (.done, ← q.discard)
  | .get => do
    let (data, q') ← q.get
    return (.data data, q')
  | .reopen limit => return (.done, ← openOn q.queue.store limit)

/-- Do one thing with a queue over a probe that is given fault rules for it. An operation that fails
    leaves the queue as it is. -/
def performUnder (cell : Ref .probe) (rules : List FaultRule) (q : BoundedQueue) (op : BoundedOp) :
    StoreM (Except Error QueueAnswer × BoundedQueue) := do
  Probe.setRules cell rules
  match ← attempt (q.act op) with
  | .ok (answer, q') => return (.ok answer, q')
  | .error e => return (.error e, q)

/-- A live queue in a world. -/
structure Moment where
  queue : BoundedQueue
  world : World

/-- The sequence numbers in the queue, the oldest one first. -/
def Moment.numbers (now : Moment) : List Nat := now.queue.queue.range.numbers

/-- An operation of a run with the fault rules that it met and its answer, and the moments before
    and after it. -/
structure Turn where
  op : BoundedOp
  rules : List FaultRule
  answer : Except Error QueueAnswer
  before : Moment
  after : Moment

namespace Turn

/-- The operation came out as it is recorded. -/
structure Runs (turn : Turn) (cell : Ref .probe) : Prop where
  candid : FaultRule.Candid turn.rules
  run : (performUnder cell turn.rules turn.before.queue turn.op).run turn.before.world =
    .ok (turn.answer, turn.after.queue) turn.after.world

/-- A `put` of these data was followed by a trimming that left the queue as it then was, and that
    met a failure or none. -/
def Trimming (turn : Turn) (cell : Ref .probe) (data : Bytes) (met : Option Error) : Prop :=
  ∃ q w w', (turn.before.queue.queue.put data).run (turn.before.world.ruled cell turn.rules) =
    .ok q w ∧ Trims turn.before.queue.limit q w met turn.after.queue.queue w'

/-- The operation was to take or to drop the oldest item, and failed after it had deleted the entry
    of this number. -/
structure Tears (turn : Turn) (cell : Ref .probe) (number : Nat) : Prop where
  cause : turn.op.below.Takes ∧ (∃ e, turn.answer = .error e) ∨
    ∃ data e, turn.op = .put data ∧ turn.Trimming cell data (some e)
  present : (turn.before.world.probed cell).get? (itemKey number) ≠ none
  deleted : (turn.after.world.probed cell).get? (itemKey number) = none

/-- The number and the data of a `put` that succeeded. -/
def told? (turn : Turn) : Option (Nat × Bytes) :=
  match turn.op, turn.answer with
  | .put data, .ok (.stored number) => some (number, data)
  | _, _ => none

end Turn

/-- The puts that were acknowledged, with the numbers that they were told. -/
def acknowledged (turns : List Turn) : List (Nat × Bytes) := turns.filterMap Turn.told?

/-- Runs over a probe that is empty at first. Every operation meets fault rules of its own, under
    which no read fails as if the key were absent. -/
inductive Ran (cell : Ref .probe) (traits : ProbeTraits) : List Turn → Moment → Prop where
  | opened {w limit q w'} (candid : FaultRule.Candid (w.rules cell))
      (empty : w.probed cell = .empty)
      (run : (openOn (.probe cell traits) limit).run w = .ok q w') : Ran cell traits [] ⟨q, w'⟩
  | turn {turns turn} (earlier : Ran cell traits turns turn.before) (runs : turn.Runs cell) :
      Ran cell traits (turns ++ [turn]) turn.after

/-- The item with this number is stored with the data that were put under it. Only the oldest item
    may be gone, if one of the given operations has deleted its entry. -/
def Kept (cell : Ref .probe) (turns tearing : List Turn) (now : Moment) (number : Nat) : Prop :=
  (∃ data, (number, data) ∈ acknowledged turns ∧
    (now.world.probed cell).get? (itemKey number) = some data) ∨
  number = now.queue.queue.range.oldest.toNat ∧
    (now.world.probed cell).get? (itemKey number) = none ∧
    ∃ turn ∈ tearing, turn.Tears cell number

/-- What a `put` after these operations leaves, whose trimming met a failure or none. -/
structure LeavesRecent (cell : Ref .probe) (earlier : List Turn) (turn : Turn) (data : Bytes)
    (met : Option Error) : Prop where
  /-- Trimming ended. -/
  trimming : turn.Trimming cell data met
  suffix : turn.after.numbers <:+
    turn.before.numbers ++ [turn.before.queue.queue.range.latest.toNat + 1]
  recent : met = none →
    turn.after.numbers.length = min turn.before.queue.limit.toNat (turn.before.numbers.length + 1)
  /-- Without a failure, trimming itself has deleted no item that is still counted. -/
  kept : met = none →
    ∀ number ∈ turn.after.numbers, Kept cell (earlier ++ [turn]) earlier turn.after number
  counted : turn.after.world.counters.trimFailures =
    turn.before.world.counters.trimFailures + if met.isSome then 1 else 0

/-- What a `put` after these operations does. -/
structure KeepsRecent (cell : Ref .probe) (earlier : List Turn) (turn : Turn) (data : Bytes) :
    Prop where
  /-- Only its own writes decide whether it succeeds. -/
  accepted : (∃ a, turn.answer = .ok a) ↔
    turn.before.queue.queue.Written data (turn.before.world.ruled cell turn.rules)
  leaves : ∀ a, turn.answer = .ok a →
    a = .stored (turn.before.queue.queue.range.latest.toNat + 1) ∧
      ∃ met, LeavesRecent cell earlier turn data met

open StoredQueue

variable {cell : Ref .probe} {traits : ProbeTraits} {f f' : Fifo} {turns : List Turn} {turn : Turn}
  {now : Moment} {w : World} {entries entries' : SortedMap Bytes Bytes}

/-! ## One operation -/

/-- The bounded queue over the queue that an operation leaves below. -/
def rebound (q : BoundedQueue) : BoundedOp → StoredQueue → Except Error BoundedQueue
  | .reopen limit, queue => ofQueue queue limit
  | _, queue => .ok { q with queue }

theorem bounded_of_ofQueue {q : BoundedQueue} {queue : StoredQueue} {limit : UInt64}
    (bounded : ofQueue queue limit = .ok q) : q.queue = queue ∧ 1 ≤ q.limit := by
  rw [ofQueue] at bounded
  split at bounded
  · cases bounded
  · rename_i positive
    cases bounded
    refine ⟨rfl, ?_⟩
    rw [UInt64.le_iff_toNat_le, UInt64.toNat_one]
    exact Nat.pos_of_ne_zero fun none => positive (UInt64.toNat_inj.mp none)

theorem rebound_eq_ok {q q' : BoundedQueue} {op : BoundedOp} {queue : StoredQueue}
    (bounded : 1 ≤ q.limit) (same : q.rebound op queue = .ok q') :
    q'.queue = queue ∧ 1 ≤ q'.limit := by
  cases op with
  | reopen limit => exact bounded_of_ofQueue same
  | put | peek | discard | get =>
    cases same
    exact ⟨rfl, bounded⟩

/-- Only opening a queue again can fail for its limit. -/
theorem below_of_rebound {q : BoundedQueue} {op : BoundedOp} {queue : StoredQueue} {e : Error}
    (failed : q.rebound op queue = .error e) : op.below = .reopen := by
  cases op with
  | reopen limit => rfl
  | put | peek | discard | get => cases failed

/-- Every operation but `put` does what it does to the queue below. -/
theorem act_below (q : BoundedQueue) {op : BoundedOp} (other : ∀ data, op ≠ .put data) :
    q.act op = do
      let (answer, queue) ← q.queue.act op.below
      return (answer, ← ofExcept (q.rebound op queue)) := by
  cases op with
  | put data => exact absurd rfl (other data)
  | peek | discard | get | reopen =>
    simp only [act, StoredQueue.act, BoundedOp.below, peek, discard, get, openOn, rebound, ofExcept,
      bind_assoc, pure_bind]

theorem Turn.Runs.ends (runs : turn.Runs cell) :
    (∃ a, turn.answer = .ok a ∧ (turn.before.queue.act turn.op).run
        (turn.before.world.ruled cell turn.rules) = .ok (a, turn.after.queue) turn.after.world) ∨
    ∃ e, turn.answer = .error e ∧ turn.after.queue = turn.before.queue ∧
      (turn.before.queue.act turn.op).run (turn.before.world.ruled cell turn.rules) =
        .error e turn.after.world := by
  have run := runs.run
  simp only [performUnder, EStateM.run_bind, Probe.run_setRules, run_attempt] at run
  cases acted : (turn.before.queue.act turn.op).run (turn.before.world.ruled cell turn.rules) with
  | ok outcome w =>
    rw [acted] at run
    simp only [EStateM.run_pure, EStateM.Result.ok.injEq, Prod.mk.injEq] at run
    obtain ⟨⟨told, live⟩, same⟩ := run
    exact .inl ⟨outcome.1, told.symm, by rw [← live, same]⟩
  | error e w =>
    rw [acted] at run
    simp only [EStateM.run_pure, EStateM.Result.ok.injEq, Prod.mk.injEq] at run
    obtain ⟨⟨told, live⟩, same⟩ := run
    exact .inr ⟨e, told.symm, live.symm, by rw [same]⟩

/-- An operation begins when its rules have been given. -/
theorem Turn.Runs.begins (runs : turn.Runs cell) (keeps : Keeps (turn.before.world.probed cell) f) :
    FaultRule.Candid ((turn.before.world.ruled cell turn.rules).rules cell) ∧
      Keeps ((turn.before.world.ruled cell turn.rules).probed cell) f := by
  rw [World.rules_ruled, World.probed_ruled]
  exact ⟨runs.candid, keeps⟩

/-- How an operation is explained by the abstract queues before and after it. -/
structure Explained (cell : Ref .probe) (traits : ProbeTraits) (turn : Turn) (f f' : Fifo) :
    Prop where
  live : turn.after.queue.queue = probing cell traits f'
  bounded : 1 ≤ turn.after.queue.limit
  keeps : Keeps (turn.after.world.probed cell) f'
  queued : f'.numbered <:+ f.numbered ++ turn.told?.toList
  numbers : List.range' 1 f'.latest = List.range' 1 f.latest ++ turn.told?.toList.map Prod.fst
  front : f'.items ≠ [] → (turn.after.world.probed cell).get? (itemKey (f'.taken + 1)) = none →
    turn.Tears cell (f'.taken + 1) ∨ f'.taken = f.taken ∧ f.items ≠ [] ∧
      (turn.before.world.probed cell).get? (itemKey (f.taken + 1)) = none

/-- What an operation that is told no number does to the queue below explains it. -/
theorem explained_of_effect (live : turn.after.queue.queue = probing cell traits f')
    (bounded : 1 ≤ turn.after.queue.limit) (fits : f.Fits)
    (keeps : Keeps (turn.before.world.probed cell) f) (untold : turn.told? = none)
    (silent : storedNumbers [turn.answer] = [])
    (effect : Effect f (turn.before.world.probed cell) turn.op.below turn.answer f'
      (turn.after.world.probed cell)) :
    Explained cell traits turn f f' where
  live := live
  bounded := bounded
  keeps := effect.keeps fits keeps
  queued := by
    rw [untold, Option.toList_none, List.append_nil]
    exact effect.queued silent
  numbers := by
    rw [untold, effect.numbers, silent]
    rfl
  front := by
    intro more gone
    by_cases pending : f.items = []
    · exact absurd gone (effect.first pending more)
    · cases effect.front fits keeps pending with
      | same taken _ front =>
        rw [taken, front] at gone
        exact .inr ⟨taken, pending, gone⟩
      | torn taken _ takes failed =>
        by_cases before : (turn.before.world.probed cell).get? (itemKey (f.taken + 1)) = none
        · exact .inr ⟨taken, pending, before⟩
        · exact .inl ⟨.inl ⟨takes, failed⟩, by rwa [taken], gone⟩
      | taken _ _ front => exact absurd gone (front more)

/-- A `put` that succeeded has appended its item, and has trimmed what this left. -/
structure Appended (cell : Ref .probe) (traits : ProbeTraits) (turn : Turn) (data : Bytes)
    (f f' : Fifo) (met : Option Error) : Prop where
  answer : turn.answer = .ok (.stored (f.latest + 1))
  live : turn.after.queue = { turn.before.queue with queue := probing cell traits f' }
  trimming : turn.Trimming cell data met
  trimmed : ∃ entries, Effect f (turn.before.world.probed cell) (.put data)
      (.ok (.stored (f.latest + 1))) (f.put data) entries ∧
    Trimmed turn.before.queue.limit (f.put data) entries met f' (turn.after.world.probed cell)
  counted : turn.after.world.counters.trimFailures =
    turn.before.world.counters.trimFailures + if met.isSome then 1 else 0

section Run

variable (runs : turn.Runs cell) (live : turn.before.queue.queue = probing cell traits f)
  (keeps : Keeps (turn.before.world.probed cell) f)

include runs live keeps

theorem put_appends {data : Bytes} (put : turn.op = .put data)
    (room : f.latest + turn.told?.toList.length < UInt64.size - 1) :
    (∃ f' met, Appended cell traits turn data f f' met) ∨
    ∃ e, turn.answer = .error e ∧ turn.after.queue = turn.before.queue ∧
      ¬ turn.before.queue.queue.Written data (turn.before.world.ruled cell turn.rules) ∧
      Effect f (turn.before.world.probed cell) (.put data) (.error e) f
        (turn.after.world.probed cell) := by
  have fits : f.Fits := Nat.lt_of_le_of_lt (Nat.le_add_right _ _) room
  obtain ⟨candid, held⟩ := runs.begins keeps
  have ends := runs.ends
  rw [put, act, EStateM.run_bind] at ends
  obtain ⟨w, ran, effect⟩ | ⟨e, w, ran, effect⟩ := put_ends traits data candid fits held
  · rw [← live] at ran
    obtain ⟨met, q', w', trims, run⟩ := run_put_of_ok ran
    rw [run] at ends
    obtain ⟨a, told, same⟩ | ⟨e, -, -, impossible⟩ := ends
    · simp only [EStateM.run_pure, EStateM.Result.ok.injEq, Prod.mk.injEq] at same
      obtain ⟨⟨rfl, after⟩, world⟩ := same
      have fits' : (f.put data).Fits := by
        rw [Turn.told?, put, told] at room
        rw [Fifo.Fits, f.latest_put]
        exact room
      obtain ⟨f', rfl, trimmed⟩ := trims.trimmed rfl fits' (effect.keeps fits held)
      have latest : f'.latest = f.latest + 1 := by
        obtain ⟨n, inside, rfl⟩ := trimmed.part
        rw [Fifo.latest_drop inside, f.latest_put]
      have counters : w'.counters = turn.before.world.counters := by
        have puts : Countless (turn.before.queue.queue.put data) :=
          countless_put (by rw [live]; rfl) data
        have same : w.counters = (turn.before.world.ruled cell turn.rules).counters :=
          puts.of_ok ran
        exact (trims.counters rfl).trans same
      rw [World.probed_ruled] at effect
      refine .inl ⟨f', met, ?_, after.symm, ⟨_, w, w', ran, ?_⟩, ⟨w.probed cell, effect, ?_⟩, ?_⟩
      · rw [told, toNat_latest_probing (by rwa [Fifo.Fits, latest, ← f.latest_put]), latest]
      · rw [← after]
        exact trims
      · rw [← world, probed_noteTrim]
        exact trimmed
      · rw [← world, trimFailures_noteTrim, counters]
    · cases impossible
  · rw [← live] at ran
    rw [run_put_of_error ran] at ends
    obtain ⟨a, -, impossible⟩ | ⟨e', told, same, failed⟩ := ends
    · cases impossible
    · cases failed
      rw [World.probed_ruled] at effect
      refine .inr ⟨e, told, same, fun written => ?_, effect⟩
      obtain ⟨q, w₁, impossible⟩ := (put_ok_iff (live ▸ notLast_probing fits)).mpr written
      cases ran.symm.trans impossible

theorem explained_of_other (other : ∀ data, turn.op ≠ .put data)
    (bounded : 1 ≤ turn.before.queue.limit) (fits : f.Fits) :
    ∃ f', Explained cell traits turn f f' := by
  obtain ⟨candid, held⟩ := runs.begins keeps
  have untold : turn.told? = none := by
    rw [Turn.told?]
    split
    · rename_i put _
      exact absurd put (other _)
    · rfl
  have ends := runs.ends
  rw [act_below _ other, live, EStateM.run_bind] at ends
  -- Whatever is told below, `reopen` may still fail for its limit, and has changed nothing then.
  obtain ⟨answer, f', w', run, effect⟩ | ⟨e, w', run, effect⟩ :=
    act_ends traits turn.op.below candid fits held
  · rw [World.probed_ruled] at effect
    have silent : storedNumbers [.ok answer] = [] := by
      apply effect.silent
      intro data same
      cases op : turn.op with
      | put data => exact other data op
      | peek | discard | get | reopen =>
        rw [op] at same
        cases same
    rw [run] at ends
    simp only [EStateM.run_bind] at ends
    cases rebound : turn.before.queue.rebound turn.op (probing cell traits f') with
    | ok q =>
      obtain ⟨queue, limit⟩ := rebound_eq_ok bounded rebound
      rw [rebound] at ends
      obtain ⟨a, told, same⟩ | ⟨e, -, -, impossible⟩ := ends
      · cases same
        rw [← told] at effect silent
        exact ⟨f', explained_of_effect queue limit fits keeps untold silent effect⟩
      · cases impossible
    | error e =>
      rw [rebound] at ends
      obtain ⟨a, -, impossible⟩ | ⟨e', told, same, failed⟩ := ends
      · cases impossible
      · cases failed
        refine ⟨f, explained_of_effect (by rw [same, live]) (by rwa [same]) fits keeps untold
          (by rw [told]; rfl) ?_⟩
        rw [told, effect.reopened (below_of_rebound rebound)]
        exact .failed e
  · rw [World.probed_ruled] at effect
    rw [run] at ends
    obtain ⟨a, -, impossible⟩ | ⟨e', told, same, failed⟩ := ends
    · cases impossible
    · cases failed
      rw [← told] at effect
      exact ⟨f, explained_of_effect (by rw [same, live]) (by rwa [same]) fits keeps untold
        (by rw [told]; rfl) effect⟩

end Run

theorem Appended.explained {data : Bytes} {met : Option Error}
    (appended : Appended cell traits turn data f f' met) (put : turn.op = .put data)
    (bounded : 1 ≤ turn.before.queue.limit) (fits : f.Fits)
    (keeps : Keeps (turn.before.world.probed cell) f) : Explained cell traits turn f f' := by
  obtain ⟨answer, live, trimming, ⟨entries, effect, trimmed⟩, -⟩ := appended
  have told : turn.told? = some (f.latest + 1, data) := by
    rw [Turn.told?, put, answer]
  obtain ⟨n, inside, dropped⟩ := trimmed.part
  constructor
  case live => rw [live]
  case bounded => rwa [live]
  case keeps => exact trimmed.keeps
  case queued =>
    rw [told, dropped, Fifo.numbered_drop, f.numbered_put]
    exact List.drop_suffix _ _
  case numbers =>
    rw [told, dropped, Fifo.latest_drop inside, effect.numbers]
    rfl
  case front =>
    intro more gone
    by_cases before : f'.taken = f.taken ∧ f.items ≠ [] ∧
      (turn.before.world.probed cell).get? (itemKey (f.taken + 1)) = none
    · exact .inr before
    · left
      obtain stopped | ⟨same, gone'⟩ := trimmed.front more gone
      · obtain ⟨e, rfl⟩ := Option.ne_none_iff_exists'.mp stopped
        refine ⟨.inr ⟨data, e, put, trimming⟩, ?_, gone⟩
        -- The new item alone is never too much, so the one that was deleted is older.
        have older : n < f.items.length := by
          have exceeds := trimmed.exceeds stopped
          rw [UInt64.le_iff_toNat_le, UInt64.toNat_one] at bounded
          rw [dropped] at exceeds
          simp only [Fifo.drop, Fifo.put, List.length_drop, List.length_append,
            List.length_singleton] at exceeds
          omega
        intro absent
        cases n with
        | zero =>
          refine before ⟨by rw [dropped]; rfl, List.length_pos_iff.mp older, ?_⟩
          rw [dropped] at absent
          exact absent
        | succ n =>
          have there := keeps.item (n + 1) older (Nat.succ_pos n)
          rw [dropped, Fifo.drop, Fifo.put] at absent
          dsimp only at absent
          rw [show f.taken + (n + 1) + 1 = f.taken + 1 + (n + 1) by omega, there] at absent
          cases absent
      · subst same
        exfalso
        by_cases pending : f.items = []
        · exact effect.first pending more gone'
        · cases effect.front fits keeps pending with
          | same _ _ front => exact before ⟨rfl, pending, front.symm.trans gone'⟩
          | torn _ _ _ failed => cases failed.choose_spec
          | taken taken => simp [Fifo.put] at taken

theorem explained_of_run (runs : turn.Runs cell)
    (live : turn.before.queue.queue = probing cell traits f)
    (bounded : 1 ≤ turn.before.queue.limit) (keeps : Keeps (turn.before.world.probed cell) f)
    (room : f.latest + turn.told?.toList.length < UInt64.size - 1) :
    ∃ f', Explained cell traits turn f f' := by
  have fits : f.Fits := Nat.lt_of_le_of_lt (Nat.le_add_right _ _) room
  by_cases put : ∃ data, turn.op = .put data
  · obtain ⟨data, put⟩ := put
    obtain ⟨f', met, appended⟩ | ⟨e, told, same, -, effect⟩ :=
      put_appends runs live keeps put room
    · exact ⟨f', appended.explained put bounded fits keeps⟩
    · refine ⟨f, explained_of_effect (by rw [same, live]) (by rwa [same]) fits keeps ?_
        (by rw [told]; rfl) ?_⟩
      · rw [Turn.told?, put, told]
      · rw [put, told]
        exact effect
  · exact explained_of_other runs live keeps (fun data same => put ⟨data, same⟩) bounded fits

/-! ## Whole runs -/

/-- The queue is the end of what was acknowledged, and its oldest item is gone only if some
    operation has deleted it. -/
structure Tracked (cell : Ref .probe) (turns : List Turn) (f : Fifo)
    (entries : SortedMap Bytes Bytes) : Prop where
  keeps : Keeps entries f
  numbers : (acknowledged turns).map Prod.fst = List.range' 1 f.latest
  queued : f.numbered <:+ acknowledged turns
  lost : f.items ≠ [] → entries.get? (itemKey (f.taken + 1)) = none →
    ∃ turn ∈ turns, turn.Tears cell (f.taken + 1)

theorem tracked_empty : Tracked cell [] {} .empty where
  keeps := keeps_empty
  numbers := rfl
  queued := List.suffix_refl _
  lost pending := absurd rfl pending

theorem acknowledged_concat (turns : List Turn) (turn : Turn) :
    acknowledged (turns ++ [turn]) = acknowledged turns ++ turn.told?.toList := by
  rw [acknowledged, List.filterMap_append]
  cases told : turn.told? <;> simp [told, acknowledged]

theorem Tracked.length_acknowledged (tracked : Tracked cell turns f entries) :
    (acknowledged turns).length = f.latest := by
  rw [← List.length_map, tracked.numbers, List.length_range']

/-- One more operation is explained if the run before it was. -/
theorem Tracked.next (tracked : Tracked cell turns f (turn.before.world.probed cell))
    (explained : Explained cell traits turn f f') :
    Tracked cell (turns ++ [turn]) f' (turn.after.world.probed cell) where
  keeps := explained.keeps
  numbers := by
    rw [acknowledged_concat, List.map_append, tracked.numbers, explained.numbers]
  queued := by
    obtain ⟨left, same⟩ := tracked.queued
    rw [acknowledged_concat, ← same, List.append_assoc]
    exact explained.queued.trans (List.suffix_append _ _)
  lost := by
    intro more gone
    obtain tears | ⟨taken, pending, before⟩ := explained.front more gone
    · exact ⟨turn, List.mem_append_right _ List.mem_cons_self, tears⟩
    · obtain ⟨turn', listed, tears⟩ := tracked.lost pending before
      rw [taken]
      exact ⟨turn', List.mem_append_left _ listed, tears⟩

/-- The live queue is an abstract one that is explained by the record of the run. -/
theorem Ran.tracked (ran : Ran cell traits turns now)
    (room : (acknowledged turns).length < UInt64.size - 1) :
    ∃ f, now.queue.queue = probing cell traits f ∧ 1 ≤ now.queue.limit ∧ f.Fits ∧
      Tracked cell turns f (now.world.probed cell) := by
  induction ran with
  | @opened w limit q w' candid empty run =>
    have fits : Fifo.Fits {} := show 0 < UInt64.size - 1 by decide
    have keeps : Keeps (w.probed cell) {} := by
      rw [empty]
      exact keeps_empty
    obtain ⟨queue, w₁, opened, rest⟩ := run_bind_eq_ok_iff.mp run
    cases tries_openOn traits candid fits keeps with
    | fails _ _ run' => cases run'.symm.trans opened
    | answers reading run' =>
      cases run'.symm.trans opened
      cases bounded : ofQueue (probing cell traits {}) limit with
      | error e =>
        rw [bounded] at rest
        cases rest
      | ok q =>
        rw [bounded] at rest
        cases rest
        obtain ⟨queue, positive⟩ := bounded_of_ofQueue bounded
        refine ⟨{}, queue, positive, fits, ?_⟩
        rw [reading.entries, empty]
        exact tracked_empty
  | @turn turns turn ran runs ih =>
    have more := room
    rw [acknowledged_concat, List.length_append] at more
    obtain ⟨f, live, bounded, -, tracked⟩ := ih (Nat.lt_of_le_of_lt (Nat.le_add_right _ _) more)
    rw [tracked.length_acknowledged] at more
    obtain ⟨f', explained⟩ := explained_of_run runs live bounded tracked.keeps more
    have tracked' := tracked.next explained
    refine ⟨f', explained.live, explained.bounded, ?_, tracked'⟩
    rw [Fifo.Fits, ← tracked'.length_acknowledged]
    exact room

/-- An operation of a run came out after the operations before it. -/
theorem Ran.split {earlier later : List Turn}
    (ran : Ran cell traits (earlier ++ turn :: later) now) :
    Ran cell traits earlier turn.before ∧ turn.Runs cell := by
  generalize record : earlier ++ turn :: later = turns at ran
  induction ran generalizing later with
  | opened => simp at record
  | @turn turns last ran runs ih =>
    obtain rfl | ⟨later, last', rfl⟩ := List.eq_nil_or_concat later
    · obtain ⟨rfl, same⟩ := List.append_inj' record rfl
      cases same
      exact ⟨ran, runs⟩
    · rw [List.concat_eq_append, ← List.cons_append, ← List.append_assoc] at record
      exact ih (List.append_inj' record rfl).1

/-- Every number in the queue stands for an item that is stored, except perhaps the oldest one. -/
theorem Tracked.kept (tracked : Tracked cell turns f (now.world.probed cell))
    (live : now.queue.queue = probing cell traits f) (fits : f.Fits) {number : Nat}
    (inside : number ∈ now.numbers) : Kept cell turns turns now number := by
  rw [Moment.numbers, live, numbers_probing fits] at inside
  obtain ⟨⟨number, data⟩, item, rfl⟩ := List.mem_map.mp inside
  have known : (number, data) ∈ acknowledged turns := tracked.queued.subset item
  obtain ⟨i, within, rfl, rfl⟩ := Fifo.exists_of_mem_numbered item
  cases i with
  | succ i => exact .inl ⟨_, known, tracked.keeps.item (i + 1) within (Nat.succ_pos i)⟩
  | zero =>
    obtain ⟨data, rest, items⟩ := List.exists_cons_of_length_pos within
    obtain there | gone := tracked.keeps.front data rest items
    · simp only [items, List.getElem_cons_zero] at known
      exact .inl ⟨data, known, there⟩
    · have lost := tracked.lost (List.length_pos_iff.mp within) gone
      exact .inr ⟨by rw [live, toNat_oldest_probing fits], gone, lost⟩

/-- A `put` whose trimming met no failure has torn nothing. -/
theorem not_tears {data : Bytes} {number : Nat} (put : turn.op = .put data)
    (unmet : turn.Trimming cell data none) : ¬ turn.Tears cell number := by
  rintro ⟨⟨takes, -⟩ | ⟨data', e, put', q', w', w₂, run', trims'⟩, -, -⟩
  · rw [put] at takes
    simp [BoundedOp.below, QueueOp.Takes] at takes
  · obtain ⟨q, w, w₁, run, trims⟩ := unmet
    cases put.symm.trans put'
    cases run.symm.trans run'
    cases (trims.unique trims').1

/-- What holds of a bounded queue at the end of every run. The beginning of a run is a run, so it
    holds after every operation. -/
structure MostRecent (cell : Ref .probe) (turns : List Turn) (now : Moment) : Prop where
  /-- Puts were acknowledged under the numbers from one to the last, each of them once. -/
  numbers : (acknowledged turns).map Prod.fst = List.range' 1 now.queue.queue.range.latest.toNat
  kept : ∀ number ∈ now.numbers, Kept cell turns turns now number
  size : now.queue.size.toNat = now.numbers.length
  available : now.queue.available.toNat = now.queue.limit.toNat - now.numbers.length
  put : ∀ earlier turn later data, turns = earlier ++ turn :: later → turn.op = .put data →
    KeepsRecent cell earlier turn data

theorem keepsRecent_of_run {data : Bytes} (ran : Ran cell traits turns turn.before)
    (runs : turn.Runs cell) (put : turn.op = .put data)
    (room : (acknowledged (turns ++ [turn])).length < UInt64.size - 1) :
    KeepsRecent cell turns turn data := by
  rw [acknowledged_concat, List.length_append] at room
  obtain ⟨f, live, bounded, fits, tracked⟩ :=
    ran.tracked (Nat.lt_of_le_of_lt (Nat.le_add_right _ _) room)
  rw [tracked.length_acknowledged] at room
  have notLast : turn.before.queue.queue.range.latest ≠ 0xFFFFFFFFFFFFFFFF :=
    live ▸ notLast_probing fits
  have latest : turn.before.queue.queue.range.latest.toNat = f.latest := by
    rw [live, toNat_latest_probing fits]
  have before : turn.before.numbers = f.numbered.map Prod.fst := by
    rw [Moment.numbers, live, numbers_probing fits]
  obtain ⟨f', met, appended⟩ | ⟨e, told, -, refused, -⟩ :=
    put_appends runs live tracked.keeps put room
  · have explained := appended.explained put bounded fits tracked.keeps
    have tracked' := tracked.next explained
    obtain ⟨answer, after, trimming, ⟨entries, -, trimmed⟩, counted⟩ := appended
    have fits' : f'.Fits := by
      rw [Fifo.Fits, ← tracked'.length_acknowledged, acknowledged_concat, List.length_append,
        tracked.length_acknowledged]
      exact room
    have numbers : turn.after.numbers = f'.numbered.map Prod.fst := by
      rw [Moment.numbers, after, numbers_probing fits']
    have leaves : LeavesRecent cell turns turn data met := by
      constructor
      case trimming => exact trimming
      case suffix =>
        obtain ⟨n, -, dropped⟩ := trimmed.part
        rw [numbers, before, latest, dropped, Fifo.numbered_drop, f.numbered_put, List.map_drop,
          List.map_append]
        exact List.drop_suffix _ _
      case recent =>
        intro unmet
        rw [numbers, before, f'.numbers_numbered, f.numbers_numbered, List.length_range',
          List.length_range', trimmed.fits unmet, Fifo.put, List.length_append]
        rfl
      case kept =>
        rintro rfl number inside
        obtain stored | ⟨front, gone, turn', listed, tears⟩ :=
          tracked'.kept (by rw [after]) fits' inside
        · exact .inl stored
        · obtain earlier | new := List.mem_append.mp listed
          · exact .inr ⟨front, gone, turn', earlier, tears⟩
          · rw [List.mem_singleton.mp new] at tears
            exact absurd tears (not_tears put trimming)
      case counted => exact counted
    obtain ⟨q, w, w', run, -⟩ := trimming
    refine ⟨⟨fun _ => (put_ok_iff notLast).mp ⟨q, w, run⟩, fun _ => ⟨_, answer⟩⟩, fun a same => ?_⟩
    cases answer.symm.trans same
    exact ⟨by rw [latest], met, leaves⟩
  · have failed : ∀ a, turn.answer ≠ .ok a := by
      intro a same
      cases told.symm.trans same
    refine ⟨⟨?_, fun written => absurd written refused⟩, fun a same => absurd same (failed a)⟩
    rintro ⟨a, same⟩
    exact absurd same (failed a)

/-- A bounded queue over a store of which any call may fail without effect keeps the most recent
    items, whatever limits it was opened with, as long as its numbers fit. A read that fails does
    not fail as "not found" (`FaultRule.Candid`): a store says so of a key that it does not hold,
    and `reopen` takes it to mean that no number was stored yet. -/
theorem bounded_queue_keeps_most_recent (ran : Ran cell traits turns now)
    (room : (acknowledged turns).length < UInt64.size - 1) : MostRecent cell turns now := by
  obtain ⟨f, live, bounded, fits, tracked⟩ := ran.tracked room
  have size : now.queue.size.toNat = now.numbers.length := by
    rw [size, live, toNat_size_probing fits, Moment.numbers, live, numbers_probing fits,
      f.numbers_numbered, List.length_range']
  constructor
  case numbers => rw [live, toNat_latest_probing fits, tracked.numbers]
  case kept => exact fun number inside => tracked.kept live fits inside
  case size => exact size
  case available => rw [toNat_available, size]
  case put =>
    rintro earlier turn later data rfl put
    obtain ⟨before, runs⟩ := ran.split
    refine keepsRecent_of_run before runs put (Nat.lt_of_le_of_lt ?_ room)
    rw [List.append_cons earlier turn later]
    exact ((List.sublist_append_left (earlier ++ [turn]) later).filterMap Turn.told?).length_le

/-! A limit of two; the third item is not trimmed, but the first one is lost; a limit of one then
works off what is too much. -/

/-- What comes of an operation that meets these fault rules. -/
def Moment.next (now : Moment) (cell : Ref .probe) (rules : List FaultRule) (op : BoundedOp) :
    Turn :=
  match (performUnder cell rules now.queue op).run now.world with
  | .ok (answer, q) w => ⟨op, rules, answer, now, ⟨q, w⟩⟩
  | .error e w => ⟨op, rules, .error e, now, ⟨now.queue, w⟩⟩

/-- A run can go on with every operation. -/
theorem Ran.next (ran : Ran cell traits turns now) {rules : List FaultRule}
    (candid : FaultRule.Candid rules) (op : BoundedOp) :
    Ran cell traits (turns ++ [now.next cell rules op]) (now.next cell rules op).after := by
  have ends : ∃ answer q w, (performUnder cell rules now.queue op).run now.world =
      .ok (answer, q) w := by
    simp only [performUnder, EStateM.run_bind, Probe.run_setRules, run_attempt]
    cases (now.queue.act op).run (now.world.ruled cell rules) with
    | ok outcome w => exact ⟨_, _, _, rfl⟩
    | error e w => exact ⟨_, _, _, rfl⟩
  obtain ⟨answer, q, w, run⟩ := ends
  have same : now.next cell rules op = ⟨op, rules, answer, now, ⟨q, w⟩⟩ := by
    rw [Moment.next, run]
  rw [same]
  exact .turn ran ⟨candid, run⟩

/-- A queue that was just opened over an empty probe. -/
def opening (limit : UInt64) : Moment where
  queue := ⟨⟨.probe ⟨0⟩ {}, ⟨1, 0⟩⟩, limit⟩
  world := stateAfter (openOn (.probe ⟨0⟩ {}) limit) { randomness := fun _ => 0 }

def firstPut : Turn := (opening 2).next ⟨0⟩ [] (.put [1])

def secondPut : Turn := firstPut.after.next ⟨0⟩ [] (.put [2])

/-- The write that would count the first item as dropped fails after the item was deleted. -/
def stuckPut : Turn := secondPut.after.next ⟨0⟩ (refusing oldestKey) (.put [3])

def narrowing : Turn := stuckPut.after.next ⟨0⟩ [] (.reopen 1)

def lastPut : Turn := narrowing.after.next ⟨0⟩ [] (.put [4])

theorem works_off_backlog :
    Ran ⟨0⟩ {} [firstPut, secondPut, stuckPut, narrowing, lastPut] lastPut.after ∧
    stuckPut.Trimming ⟨0⟩ [3] (some (.backend "io")) ∧ stuckPut.Tears ⟨0⟩ 1 ∧
    stuckPut.after.numbers = [1, 2, 3] ∧ stuckPut.after.world.counters.trimFailures = 1 ∧
    lastPut.after.numbers = [4] ∧ lastPut.after.world.counters.trimFailures = 1 ∧
    MostRecent ⟨0⟩ [firstPut, secondPut, stuckPut, narrowing, lastPut] lastPut.after := by
  have opened : Ran ⟨0⟩ {} [] (opening 2) :=
    @Ran.opened ⟨0⟩ {} { randomness := fun _ => 0 } 2 _ _ FaultRule.candid_nil rfl rfl
  have ran : Ran ⟨0⟩ {} [firstPut, secondPut, stuckPut, narrowing, lastPut] lastPut.after :=
    ((((opened.next FaultRule.candid_nil (.put [1])).next FaultRule.candid_nil (.put [2])).next
      (candid_refusing oldestKey) (.put [3])).next FaultRule.candid_nil (.reopen 1)).next
        FaultRule.candid_nil (.put [4])
  have room : (acknowledged [firstPut, secondPut, stuckPut, narrowing, lastPut]).length <
      UInt64.size - 1 := by
    change 4 < UInt64.size - 1
    decide
  have stuck : stuckPut.Trimming ⟨0⟩ [3] (some (.backend "io")) :=
    ⟨_, _, _, rfl, .failed (by decide) rfl⟩
  have tears : stuckPut.Tears ⟨0⟩ 1 := ⟨.inr ⟨[3], _, rfl, stuck⟩, nofun, rfl⟩
  exact ⟨ran, stuck, tears, rfl, rfl, rfl, rfl, bounded_queue_keeps_most_recent ran room⟩

end BoundedQueue

end StoreGraph
