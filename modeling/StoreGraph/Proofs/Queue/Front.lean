import StoreGraph.Proofs.Queue.History

/-! # The oldest item after failures

Taking an item out deletes its entry first and counts it as taken afterwards. An operation that
fails in between has lost the item, and the queue still counts it: as long as it does, `peek` and
`get` answer that there is no item, whatever stands behind it, until a `discard` succeeds. There is
no other way for a queue that is not empty to answer so (`front_answers_unless_lost`).
-/

namespace StoreGraph

namespace StoredQueue

open Probe

/-- Some operation of the run has deleted the oldest item, which still counts. -/
def Lost (cell : Ref .probe) (turns : List Turn) (now : Moment) : Prop :=
  ∃ turn ∈ turns, turn.Tears cell now.queue.range.oldest

variable {cell : Ref .probe} {traits : ProbeTraits} {f : Fifo} {turns : List Turn} {now : Moment}

/-! ## Calls that do not fail -/

section Quiet

variable {w : World} (quiet : w.rules cell = [])

include quiet

/-- The oldest item can be dropped, be it stored or not. -/
theorem run_discard_quiet (traits : ProbeTraits) (fits : f.Fits) (pending : f.items ≠ []) :
    ∃ q w', (probing cell traits f).discard.run w = .ok q w' := by
  obtain ⟨data, rest, items⟩ := List.exists_cons_of_ne_nil pending
  obtain ⟨w₁, deleted, quiet₁⟩ := (writes_del cell traits (itemKey (f.taken + 1)) w).quiet quiet
  obtain ⟨w₂, counted, -⟩ :=
    (writes_put cell traits oldestKey (itemKey (f.taken + 2)) w₁).quiet quiet₁
  refine ⟨probing cell traits ⟨f.taken + 1, rest⟩, w₂, ?_⟩
  rw [discard_cons cell traits fits items, EStateM.run_bind, deleted]
  dsimp only
  rw [EStateM.run_bind, counted]
  rfl

theorem run_peek_quiet (traits : ProbeTraits) (fits : f.Fits) (pending : f.items ≠ []) :
    ∃ w', w'.rules cell = [] ∧ (probing cell traits f).peek.run w =
      match (w.probed cell).get? (itemKey (f.taken + 1)) with
      | some data => .ok data w'
      | none => .error .notFound w' := by
  obtain ⟨data, rest, items⟩ := List.exists_cons_of_ne_nil pending
  have run := Storage.run_probe_get cell w traits (itemKey (f.taken + 1))
  have reading := Reading.entered cell w (.get (itemKey (f.taken + 1)))
  rw [World.fault?_of_no_rules quiet] at run
  refine ⟨_, reading.quiet quiet, ?_⟩
  rw [peek_cons cell traits fits items, Store.get, Store.storage, run]
  cases (w.probed cell).get? (itemKey (f.taken + 1)) with
  | some data => rfl
  | none => rfl

theorem run_get_quiet (traits : ProbeTraits) (fits : f.Fits) (pending : f.items ≠ []) {data : Bytes}
    (held : (w.probed cell).get? (itemKey (f.taken + 1)) = some data) :
    ∃ q w', (probing cell traits f).get.run w = .ok (data, q) w' := by
  obtain ⟨w₁, quiet₁, peeked⟩ := run_peek_quiet quiet traits fits pending
  obtain ⟨q, w₂, discarded⟩ := run_discard_quiet quiet₁ traits fits pending
  rw [held] at peeked
  refine ⟨q, w₂, ?_⟩
  simp only [StoredQueue.get, EStateM.run_bind, peeked, discarded, EStateM.run_pure]

end Quiet

theorem next_of_ok {op : QueueOp} {rules : List FaultRule} {answer : QueueAnswer} {q : StoredQueue}
    {w' : World} (run : (now.queue.act op).run (now.world.ruled cell rules) = .ok (answer, q) w') :
    now.next cell rules op = ⟨op, .ok answer, now, ⟨q, w'⟩⟩ := by
  simp only [Moment.next, performUnder, perform, EStateM.run_bind, Probe.run_setRules, run_attempt,
    run, EStateM.run_pure]

theorem next_of_error {op : QueueOp} {rules : List FaultRule} {e : Error} {w' : World}
    (run : (now.queue.act op).run (now.world.ruled cell rules) = .error e w') :
    now.next cell rules op = ⟨op, .error e, now, ⟨now.queue, w'⟩⟩ := by
  simp only [Moment.next, performUnder, perform, EStateM.run_bind, Probe.run_setRules, run_attempt,
    run, EStateM.run_pure]

/-- Without an item to read, `get` fails as `peek` does. -/
theorem next_of_peek_error {rules : List FaultRule} {e : Error} {w' : World}
    (run : now.queue.peek.run (now.world.ruled cell rules) = .error e w') :
    now.next cell rules .peek = ⟨.peek, .error e, now, ⟨now.queue, w'⟩⟩ ∧
      now.next cell rules .get = ⟨.get, .error e, now, ⟨now.queue, w'⟩⟩ := by
  constructor
  · apply next_of_error
    simp only [act, EStateM.run_bind, run]
  · apply next_of_error
    simp only [act, StoredQueue.get, EStateM.run_bind, run]

/-! ## The next answer -/

section Next

variable (live : now.queue = probing cell traits f) (fits : f.Fits)

include live fits

theorem next_of_empty (items : f.items = []) :
    (now.next cell [] .peek).answer = .error .notFound ∧
      (now.next cell [] .get).answer = .error .notFound := by
  have run : now.queue.peek.run (now.world.ruled cell []) =
      .error .notFound (now.world.ruled cell []) := by
    rw [live, peek_nil cell traits fits items, run_throw_any]
  obtain ⟨peeks, gets⟩ := next_of_peek_error run
  rw [peeks, gets]
  exact ⟨rfl, rfl⟩

theorem next_of_held (pending : f.items ≠ []) {data : Bytes}
    (held : (now.world.probed cell).get? (itemKey (f.taken + 1)) = some data) :
    (now.next cell [] .peek).answer = .ok (.data data) ∧
      (now.next cell [] .get).answer = .ok (.data data) := by
  have quiet : (now.world.ruled cell []).rules cell = [] := World.rules_ruled _ _ _
  rw [← World.probed_ruled _ _ []] at held
  obtain ⟨w₁, -, peeked⟩ := run_peek_quiet quiet traits fits pending
  obtain ⟨q, w₂, got⟩ := run_get_quiet quiet traits fits pending held
  rw [held, ← live] at peeked
  rw [← live] at got
  have peeks : now.next cell [] .peek = ⟨.peek, .ok (.data data), now, ⟨now.queue, w₁⟩⟩ := by
    apply next_of_ok
    simp only [act, EStateM.run_bind, peeked, EStateM.run_pure]
  have gets : now.next cell [] .get = ⟨.get, .ok (.data data), now, ⟨q, w₂⟩⟩ := by
    apply next_of_ok
    simp only [act, EStateM.run_bind, got, EStateM.run_pure]
  rw [peeks, gets]
  exact ⟨rfl, rfl⟩

theorem next_of_gone (pending : f.items ≠ [])
    (gone : (now.world.probed cell).get? (itemKey (f.taken + 1)) = none) :
    (now.next cell [] .peek).answer = .error .notFound ∧
      (now.next cell [] .get).answer = .error .notFound ∧
      (now.next cell [] .get).after.queue = now.queue ∧
      (now.next cell [] .discard).answer = .ok .done := by
  have quiet : (now.world.ruled cell []).rules cell = [] := World.rules_ruled _ _ _
  rw [← World.probed_ruled _ _ []] at gone
  obtain ⟨w₁, -, peeked⟩ := run_peek_quiet quiet traits fits pending
  obtain ⟨q, w₂, discarded⟩ := run_discard_quiet quiet traits fits pending
  rw [gone, ← live] at peeked
  rw [← live] at discarded
  have discards : now.next cell [] .discard = ⟨.discard, .ok .done, now, ⟨q, w₂⟩⟩ := by
    apply next_of_ok
    simp only [act, EStateM.run_bind, discarded, EStateM.run_pure]
  obtain ⟨peeks, gets⟩ := next_of_peek_error peeked
  rw [peeks, gets, discards]
  exact ⟨rfl, rfl, rfl, rfl⟩

end Next

/-- In a run whose numbers fit, let no call of the store fail during the next operation. If the
    queue is not empty, then `peek` and `get` answer the oldest item, except if an operation has
    lost it. In this case both answer that there is none and change nothing, and only a `discard`
    helps. The failures of the run do not pass for the answer of a store without the key: no read
    has failed as "not found" (`FaultRule.Candid`), which `reopen` takes to mean that no number was
    stored yet. -/
theorem front_answers_unless_lost (ran : Ran cell traits turns now)
    (room : (acknowledgedNumbers turns).length < UInt64.size - 1) :
    (now.queue.isEmpty = true →
      (now.next cell [] .peek).answer = .error .notFound ∧
      (now.next cell [] .get).answer = .error .notFound) ∧
    (now.queue.isEmpty = false → ¬ Lost cell turns now → ∃ data,
      Acknowledged turns now.queue.range.oldest.toNat data ∧
      (now.next cell [] .peek).answer = .ok (.data data) ∧
      (now.next cell [] .get).answer = .ok (.data data)) ∧
    (now.queue.isEmpty = false → Lost cell turns now →
      (now.next cell [] .peek).answer = .error .notFound ∧
      (now.next cell [] .get).answer = .error .notFound ∧
      (now.next cell [] .get).after.queue = now.queue ∧
      (now.next cell [] .discard).answer = .ok .done) := by
  obtain ⟨f, live, fits, tracked, -⟩ := ran.tracked room
  have empty : now.queue.isEmpty = f.items.isEmpty := by
    rw [live, isEmpty_probing fits]
  have oldest : now.queue.range.oldest = UInt64.ofNat (f.taken + 1) := by
    rw [live]
    rfl
  have number : now.queue.range.oldest.toNat = f.taken + 1 := by
    rw [live, toNat_oldest_probing fits]
  rw [empty, List.isEmpty_iff, List.isEmpty_eq_false_iff]
  refine ⟨next_of_empty live fits, fun pending kept => ?_, fun pending lost => ?_⟩
  · obtain ⟨data, known, held⟩ | ⟨-, gone⟩ := tracked.front pending
    · exact ⟨data, number ▸ known, next_of_held live fits pending held⟩
    · rw [← oldest] at gone
      exact absurd gone kept
  · obtain ⟨turn, listed, tears⟩ := lost
    obtain below | ⟨-, -, gone⟩ := tracked.torn turn listed _ tears
    · omega
    · exact next_of_gone live fits pending gone

/-! A `get` that fails between its two writes hides the second item behind the first one. -/

def appendingOne : Turn := fresh.next ⟨0⟩ [] (.put [1])

def appendingTwo : Turn := appendingOne.after.next ⟨0⟩ [] (.put [2])

/-- A `get` that deletes the first item without taking it. -/
def tearing : Turn := appendingTwo.after.next ⟨0⟩ (refusing oldestKey) .get

theorem ran_tearing : Ran ⟨0⟩ {} [appendingOne, appendingTwo, tearing] tearing.after :=
  ((ran_fresh.next FaultRule.candid_nil (.put [1])).next FaultRule.candid_nil (.put [2])).next
    (candid_refusing oldestKey) .get

/-- The queue has two items, none of which can be read, although nothing fails any more. -/
theorem nonempty_queue_answers_empty :
    Ran ⟨0⟩ {} [appendingOne, appendingTwo, tearing] tearing.after ∧
      tearing.answer = .error (.backend "io") ∧ tearing.after.queue.size = 2 ∧
      tearing.after.queue.isEmpty = false ∧
      (tearing.after.next ⟨0⟩ [] .peek).answer = .error .notFound ∧
      (tearing.after.next ⟨0⟩ [] .get).answer = .error .notFound :=
  ⟨ran_tearing, rfl, rfl, rfl, rfl, rfl⟩

theorem front_answers_before_and_after_loss :
    (∃ data, Acknowledged [appendingOne, appendingTwo] 1 data ∧
      (appendingTwo.after.next ⟨0⟩ [] .get).answer = .ok (.data data)) ∧
    (tearing.after.next ⟨0⟩ [] .get).answer = .error .notFound ∧
    (tearing.after.next ⟨0⟩ [] .discard).answer = .ok .done := by
  have ran : Ran ⟨0⟩ {} [appendingOne, appendingTwo] appendingTwo.after :=
    (ran_fresh.next FaultRule.candid_nil (.put [1])).next FaultRule.candid_nil (.put [2])
  have room : (acknowledgedNumbers [appendingOne, appendingTwo]).length < UInt64.size - 1 := by
    change 2 < UInt64.size - 1
    decide
  have room' : (acknowledgedNumbers [appendingOne, appendingTwo, tearing]).length <
      UInt64.size - 1 := by
    change 2 < UInt64.size - 1
    decide
  have kept : ¬ Lost ⟨0⟩ [appendingOne, appendingTwo] appendingTwo.after := by
    rintro ⟨turn, listed, takes, ⟨e, failed⟩, -⟩
    simp only [List.mem_cons, List.not_mem_nil, or_false] at listed
    obtain rfl | rfl := listed
    · cases failed
    · cases failed
  have lost : Lost ⟨0⟩ [appendingOne, appendingTwo, tearing] tearing.after :=
    ⟨tearing, by simp, .inr rfl, ⟨_, rfl⟩, nofun, rfl⟩
  obtain ⟨-, answers, -⟩ := front_answers_unless_lost ran room
  obtain ⟨-, -, hides⟩ := front_answers_unless_lost ran_tearing room'
  obtain ⟨data, known, -, got⟩ := answers rfl kept
  obtain ⟨-, hidden, -, discards⟩ := hides rfl lost
  exact ⟨⟨data, known, got⟩, hidden, discards⟩

end StoredQueue

end StoreGraph
