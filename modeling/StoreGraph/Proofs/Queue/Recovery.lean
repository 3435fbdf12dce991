import StoreGraph.Proofs.Queue.History

/-! # What failures leave behind

After every operation of a run, whatever failed, the live queue is the one that opening the store
again finds, every item behind the oldest one is stored, and the oldest one is missing only if an
operation has lost it (`recoverable_after_failures`). A failed `put` cannot be noticed: whatever
operations follow, they are answered as if it had not happened.

A read that fails as if the key were absent is no failure here, but an answer of the store: this is
how stores say that a key is absent.
-/

namespace StoreGraph

namespace StoredQueue

/-- No operation that could follow tells the two moments apart, whatever fails meanwhile. -/
def Moment.SameAnswers (cell : Ref .probe) (m m' : Moment) : Prop :=
  ∀ later : List (List FaultRule × QueueOp), (∀ turn ∈ later, FaultRule.Candid turn.1) →
    m.queue.range.latest.toNat + putCount (later.map (·.2)) < UInt64.size - 1 →
    ∃ answers w w', (answersUnder cell m.queue later).run m.world = .ok answers w ∧
      (answersUnder cell m'.queue later).run m'.world = .ok answers w'

/-- What holds at the end of every run. The beginning of a run is a run, so it holds after every
    operation. -/
structure Recoverable (cell : Ref .probe) (traits : ProbeTraits) (turns : List Turn)
    (now : Moment) : Prop where
  /-- Opening the store again finds the live queue. -/
  reopens : ∃ w', (openOn (.probe cell traits)).run (now.world.ruled cell []) = .ok now.queue w'
  oldest_pos : 1 ≤ now.queue.range.oldest.toNat
  oldest_le : now.queue.range.oldest.toNat ≤ now.queue.range.latest.toNat + 1
  /-- Puts were acknowledged under the numbers from one to the last, each of them once. -/
  numbers : acknowledgedNumbers turns = List.range' 1 now.queue.range.latest.toNat
  stored : ∀ number, now.queue.range.oldest.toNat < number →
    number ≤ now.queue.range.latest.toNat → ∃ data, Acknowledged turns number data ∧
      (now.world.probed cell).get? (itemKey number) = some data
  /-- The oldest item is stored, or else an operation failed after it had deleted it. -/
  front : now.queue.range.oldest.toNat ≤ now.queue.range.latest.toNat →
    (∃ data, Acknowledged turns now.queue.range.oldest.toNat data ∧
      (now.world.probed cell).get? (Word.toBytes now.queue.range.oldest) = some data) ∨
    (now.world.probed cell).get? (Word.toBytes now.queue.range.oldest) = none ∧
      ∃ turn ∈ turns, turn.Tears cell now.queue.range.oldest
  /-- A failed `put` leaves the queue as it was, and nobody notices what it wrote. -/
  unnoticed : ∀ turn ∈ turns, ∀ data e, turn.op = .put data → turn.answer = .error e →
    turn.after.queue = turn.before.queue ∧ turn.before.SameAnswers cell turn.after
  /-- All that a failed `put` can write is an entry under the next number. The next `put` that
      succeeds uses this number, and replaces the entry. -/
  replaced : ∀ earlier failed between next later data e data' a,
    turns = earlier ++ failed :: between ++ next :: later → failed.op = .put data →
    failed.answer = .error e → acknowledgedNumbers between = [] → next.op = .put data' →
    next.answer = .ok a →
    (∀ key ≠ itemKey (failed.before.queue.range.latest.toNat + 1),
      (failed.after.world.probed cell).get? key = (failed.before.world.probed cell).get? key) ∧
    a = .stored (failed.before.queue.range.latest.toNat + 1) ∧
    (next.after.world.probed cell).get? (itemKey (failed.before.queue.range.latest.toNat + 1)) =
      some data'
  grows : ∀ turn ∈ turns, turn.before.queue.range.oldest ≤ turn.after.queue.range.oldest ∧
    turn.before.queue.range.latest ≤ turn.after.queue.range.latest

variable {cell : Ref .probe} {traits : ProbeTraits} {f f' : Fifo} {turns : List Turn} {turn : Turn}
  {now : Moment}

theorem Keeps.reopens {w : World} (keeps : Keeps (w.probed cell) f) (fits : f.Fits) :
    ∃ w', (openOn (.probe cell traits)).run (w.ruled cell []) = .ok (probing cell traits f) w' := by
  have held : Keeps ((w.ruled cell []).probed cell) f := by
    rw [World.probed_ruled]
    exact keeps
  have none : (w.ruled cell []).rules cell = [] := World.rules_ruled w cell []
  have candid : FaultRule.Candid ((w.ruled cell []).rules cell) := by
    rw [none]
    exact FaultRule.candid_nil
  obtain ⟨w', -, run⟩ := (tries_openOn traits candid fits held).quiet none
  exact ⟨w', run⟩

/-- A failed `put` changes no entry but perhaps the one under the next number. -/
theorem Effect.agree {entries entries' : SortedMap Bytes Bytes} {data : Bytes} {e : Error}
    (effect : Effect f entries (.put data) (.error e) f' entries') :
    f' = f ∧ ∀ key ≠ itemKey (f.latest + 1), entries'.get? key = entries.get? key := by
  cases effect with
  | failed => exact ⟨rfl, fun _ _ => rfl⟩
  | orphaned => exact ⟨rfl, fun key other => SortedMap.get?_insert_of_ne _ other _⟩
  | torn takes => simp [QueueOp.Takes] at takes

theorem Explained.unnoticed {data : Bytes} {e : Error} (explained : Explained cell traits turn f f')
    (put : turn.op = .put data) (failed : turn.answer = .error e) :
    turn.after.queue = turn.before.queue ∧ turn.before.SameAnswers cell turn.after := by
  have effect := explained.effect
  rw [put, failed] at effect
  obtain ⟨rfl, same⟩ := effect.agree
  have fits := explained.fits
  have agree : AgreeUpTo f'.latest (turn.before.world.probed cell)
      (turn.after.world.probed cell) := by
    intro key used
    simp only [Fifo.Fits] at fits
    exact (same key (used _ (Nat.lt_succ_self _) (by omega))).symm
  refine ⟨explained.after.trans explained.before.symm, fun later candid room => ?_⟩
  rw [explained.before, toNat_latest_probing fits] at room
  rw [explained.before, explained.after]
  exact answers_alike later candid explained.keeps agree room

theorem Explained.grows (explained : Explained cell traits turn f f') :
    turn.before.queue.range.oldest ≤ turn.after.queue.range.oldest ∧
      turn.before.queue.range.latest ≤ turn.after.queue.range.latest := by
  have fits := explained.fits_before
  rw [explained.before, explained.after, UInt64.le_iff_toNat_le, UInt64.le_iff_toNat_le,
    toNat_oldest_probing fits, toNat_oldest_probing explained.fits, toNat_latest_probing fits,
    toNat_latest_probing explained.fits]
  exact ⟨Nat.succ_le_succ explained.effect.taken_le, explained.effect.latest_le⟩

/-- A `put` that succeeds tells the number after the last one, and stores its data there. -/
theorem Effect.stored_eq {entries entries' : SortedMap Bytes Bytes} {data : Bytes} {a : QueueAnswer}
    (effect : Effect f entries (.put data) (.ok a) f' entries') :
    a = .stored (f.latest + 1) ∧ entries'.get? (itemKey (f.latest + 1)) = some data := by
  cases effect with
  | looked spares => exact absurd (.inr ⟨data, rfl⟩) spares
  | stored =>
    rw [SortedMap.get?_insert_of_ne _ (itemKey_ne_latestKey _), SortedMap.get?_insert_self]
    exact ⟨rfl, rfl⟩
  | taken items answers => simp at answers

/-- The number used last is the number of puts that were acknowledged. -/
theorem Ran.numbers (ran : Ran cell traits turns now)
    (room : (acknowledgedNumbers turns).length < UInt64.size - 1) :
    acknowledgedNumbers turns = List.range' 1 now.queue.range.latest.toNat := by
  obtain ⟨f, live, fits, tracked, -⟩ := ran.tracked room
  rw [live, toNat_latest_probing fits, tracked.numbers]

theorem Ran.replaced {earlier between later : List Turn} {failed next : Turn} {data data' : Bytes}
    {e : Error} {a : QueueAnswer}
    (ran : Ran cell traits (earlier ++ failed :: between ++ next :: later) now)
    (room : (acknowledgedNumbers (earlier ++ failed :: between ++ next :: later)).length <
      UInt64.size - 1)
    (put : failed.op = .put data) (refused : failed.answer = .error e)
    (none : acknowledgedNumbers between = []) (put' : next.op = .put data')
    (accepted : next.answer = .ok a) :
    (∀ key ≠ itemKey (failed.before.queue.range.latest.toNat + 1),
      (failed.after.world.probed cell).get? key = (failed.before.world.probed cell).get? key) ∧
    a = .stored (failed.before.queue.range.latest.toNat + 1) ∧
    (next.after.world.probed cell).get? (itemKey (failed.before.queue.range.latest.toNat + 1)) =
      some data' := by
  obtain ⟨-, -, -, -, explained⟩ := ran.tracked room
  obtain ⟨f₁, f₁', first⟩ := explained failed (by simp)
  obtain ⟨f₂, f₂', second⟩ := explained next (by simp)
  -- Between the two puts no number was used.
  have unchanged : f₂.latest = f₁.latest := by
    have before := ran.split.1
    have silent : acknowledgedNumbers (failed :: between) = [] := by
      rw [← List.singleton_append, acknowledgedNumbers_append, none, acknowledgedNumbers]
      simp [refused, storedNumbers]
    rw [acknowledgedNumbers_append, List.length_append] at room
    have numbers := before.numbers (by omega)
    rw [acknowledgedNumbers_append, silent, List.append_nil] at numbers room
    have lengths := congrArg List.length ((before.split.1.numbers (by omega)).symm.trans numbers)
    rw [List.length_range', List.length_range', first.before, second.before,
      toNat_latest_probing first.fits_before, toNat_latest_probing second.fits_before] at lengths
    exact lengths.symm
  have effect := first.effect
  have effect' := second.effect
  rw [put, refused] at effect
  rw [put', accepted] at effect'
  have stored := effect'.stored_eq
  rw [unchanged] at stored
  rw [first.before, toNat_latest_probing first.fits_before]
  exact ⟨effect.agree.2, stored⟩

/-- A queue stays recoverable whatever calls of its store fail, as long as its numbers fit. No read
    fails as "not found", neither in the run nor in what may follow it (`FaultRule.Candid`): this is
    the answer of a store without the key, and opening a queue takes it to mean that no number was
    stored yet. -/
theorem recoverable_after_failures (ran : Ran cell traits turns now)
    (room : (acknowledgedNumbers turns).length < UInt64.size - 1) :
    Recoverable cell traits turns now := by
  obtain ⟨f, live, fits, tracked, explained⟩ := ran.tracked room
  have oldest : now.queue.range.oldest.toNat = f.taken + 1 := by
    rw [live, toNat_oldest_probing fits]
  have latest : now.queue.range.latest.toNat = f.latest := by
    rw [live, toNat_latest_probing fits]
  have word : now.queue.range.oldest = UInt64.ofNat (f.taken + 1) := by
    rw [live]
    rfl
  constructor
  case reopens =>
    rw [live]
    exact tracked.keeps.reopens fits
  case oldest_pos => omega
  case oldest_le =>
    rw [oldest, latest, Fifo.latest]
    omega
  case numbers => exact ran.numbers room
  case stored =>
    intro number behind inside
    rw [oldest] at behind
    rw [latest] at inside
    exact tracked.stored behind inside
  case front =>
    intro inside
    rw [oldest, latest, Fifo.latest] at inside
    have pending : f.items ≠ [] := List.length_pos_iff.mp (by omega)
    rw [oldest, word]
    exact tracked.front pending
  case unnoticed =>
    intro turn listed data e put failed
    obtain ⟨f₁, f₂, explained⟩ := explained turn listed
    exact explained.unnoticed put failed
  case replaced =>
    intro earlier failed between next later data e data' a record put refused none put' accepted
    subst record
    exact ran.replaced room put refused none put' accepted
  case grows =>
    intro turn listed
    obtain ⟨f₁, f₂, explained⟩ := explained turn listed
    exact explained.grows

/-- A `put` that leaves an entry without counting it. -/
def orphaning : Turn := fresh.next ⟨0⟩ (refusing latestKey) (.put [1])

/-- The `put` that takes the same number. -/
def replacing : Turn := orphaning.after.next ⟨0⟩ [] (.put [2])

/-- A `get` that deletes the oldest item without taking it. -/
def losing : Turn := replacing.after.next ⟨0⟩ (refusing oldestKey) .get

def reopening : Turn := losing.after.next ⟨0⟩ [] .reopen

theorem recoverable_after_orphan_and_loss :
    Ran ⟨0⟩ {} [orphaning, replacing, losing, reopening] reopening.after ∧
    [orphaning, replacing, losing, reopening].map (·.answer) =
      [.error (.backend "io"), .ok (.stored 1), .error (.backend "io"), .ok .done] ∧
    (acknowledgedNumbers [orphaning, replacing, losing, reopening]).length < UInt64.size - 1 ∧
    losing.Tears ⟨0⟩ 1 ∧
    Recoverable ⟨0⟩ {} [orphaning, replacing, losing, reopening] reopening.after := by
  have orphaned := ran_fresh.next (candid_refusing latestKey) (.put [1])
  have replaced := orphaned.next FaultRule.candid_nil (.put [2])
  have lost := replaced.next (candid_refusing oldestKey) .get
  have ran : Ran ⟨0⟩ {} [orphaning, replacing, losing, reopening] reopening.after :=
    lost.next FaultRule.candid_nil .reopen
  have room : (acknowledgedNumbers [orphaning, replacing, losing, reopening]).length <
      UInt64.size - 1 := by
    change 1 < UInt64.size - 1
    decide
  have tears : losing.Tears ⟨0⟩ 1 := ⟨.inr rfl, ⟨_, rfl⟩, nofun, rfl⟩
  exact ⟨ran, rfl, room, tears, recoverable_after_failures ran room⟩

end StoredQueue

end StoreGraph
