import StoreGraph.Proofs.Probe
import StoreGraph.Proofs.Queue.Session

/-! # Queues over failing stores

What an operation of a queue does when any call of its store may fail without effect. An operation
that writes twice can fail between its writes: a failed `put` then leaves an entry behind the last
number, and a failed `discard` or `get` leaves a queue whose oldest item is gone. `Effect` says once
what an operation can do, and `Keeps` is what all of these effects preserve: the sentinels carry the
range in use, and every item but the oldest one is stored.
-/

namespace StoreGraph

/-- The key of the item with a number. -/
def itemKey (n : Nat) : Bytes := Word.toBytes (UInt64.ofNat n)

theorem itemKey_ne {m n : Nat} (hm : m < UInt64.size) (hn : n < UInt64.size) (h : m ≠ n) :
    itemKey m ≠ itemKey n :=
  toBytes_ofNat_ne hm hn h

theorem ofNat_succ (n : Nat) : UInt64.ofNat n + 1 = UInt64.ofNat (n + 1) := by
  rw [UInt64.ofNat_add]
  rfl

/-- The range of numbers that an abstract queue uses. -/
def SequenceRange.ofFifo (f : Fifo) : SequenceRange :=
  ⟨UInt64.ofNat (f.taken + 1), UInt64.ofNat f.latest⟩

/-- An operation that takes the oldest item away. -/
def QueueOp.Takes (op : QueueOp) : Prop := op = .discard ∨ op = .get

/-- An operation that is meant to change the queue. -/
def QueueOp.Changes (op : QueueOp) : Prop := op.Takes ∨ ∃ data, op = .put data

namespace StoredQueue

open Probe

theorem itemKey_ne_oldestKey (n : Nat) : itemKey n ≠ oldestKey := toBytes_ne_oldestKey _

theorem itemKey_ne_latestKey (n : Nat) : itemKey n ≠ latestKey := toBytes_ne_latestKey _

/-- The live queue over a probe that is in the state of an abstract one. -/
def probing (cell : Ref .probe) (traits : ProbeTraits) (f : Fifo) : StoredQueue :=
  ⟨.probe cell traits, .ofFifo f⟩

variable {cell : Ref .probe} {traits : ProbeTraits} {f f' : Fifo} {w w₁ w₂ w₃ : World}
  {entries entries' : SortedMap Bytes Bytes}

-- What the range says does not depend on the store, so it is known from in-memory queues.
theorem isEmpty_probing (fits : f.Fits) : (probing cell traits f).isEmpty = f.items.isEmpty :=
  @isEmpty_ofFifo ⟨0⟩ f fits

theorem toNat_oldest_probing (fits : f.Fits) :
    (probing cell traits f).range.oldest.toNat = f.taken + 1 :=
  toNat_oldest ⟨0⟩ fits

theorem toNat_latest_probing (fits : f.Fits) :
    (probing cell traits f).range.latest.toNat = f.latest :=
  toNat_latest ⟨0⟩ fits

theorem notLast_probing (fits : f.Fits) :
    (probing cell traits f).range.latest ≠ 0xFFFFFFFFFFFFFFFF := by
  intro last
  have number : (probing cell traits f).range.latest.toNat = f.latest := toNat_latest_probing fits
  rw [last] at number
  simp only [Fifo.Fits, UInt64.size] at fits
  simp at number
  omega

/-! ## What operations do, and what they keep -/

/-- The entries represent a queue, except that its oldest item may be gone. -/
structure Keeps (entries : SortedMap Bytes Bytes) (f : Fifo) : Prop where
  oldest : ∃ word, sentinel entries oldestKey = some word ∧ max word 1 = UInt64.ofNat (f.taken + 1)
  latest : sentinel entries latestKey = some (UInt64.ofNat f.latest)
  item : ∀ i (inside : i < f.items.length), 0 < i →
    entries.get? (itemKey (f.taken + 1 + i)) = some f.items[i]
  front : ∀ data rest, f.items = data :: rest →
    entries.get? (itemKey (f.taken + 1)) = some data ∨ entries.get? (itemKey (f.taken + 1)) = none

theorem keeps_empty : Keeps .empty {} where
  oldest := ⟨0, rfl, by decide⟩
  latest := rfl
  item i inside := absurd inside (Nat.not_lt_zero i)
  front data rest items := by cases items

/-- What an operation can do to a queue and to the entries of its store, with what it answers. -/
inductive Effect (f : Fifo) (entries : SortedMap Bytes Bytes) :
    QueueOp → Except Error QueueAnswer → Fifo → SortedMap Bytes Bytes → Prop where
  /-- The operation failed without effect. -/
  | failed {op} (e) : Effect f entries op (.error e) f entries
  /-- The operation only looked at the queue. -/
  | looked {op answer} (spares : ¬ op.Changes) (unnumbered : ∀ n, answer ≠ .stored n) :
      Effect f entries op (.ok answer) f entries
  /-- The item was written, but is not counted. -/
  | orphaned (data e) :
      Effect f entries (.put data) (.error e) f (entries.insert (itemKey (f.latest + 1)) data)
  | stored (data) :
      Effect f entries (.put data) (.ok (.stored (f.latest + 1))) (f.put data)
        ((entries.insert (itemKey (f.latest + 1)) data).insert latestKey (itemKey (f.latest + 1)))
  /-- The oldest item was deleted, but is still counted. -/
  | torn {op} (takes : op.Takes) (e) (some : f.items ≠ []) :
      Effect f entries op (.error e) f (entries.erase (itemKey (f.taken + 1)))
  | taken {op answer data rest} (items : f.items = data :: rest)
      (answers : op = .discard ∧ answer = .done ∨ op = .get ∧ answer = .data data) :
      Effect f entries op (.ok answer) ⟨f.taken + 1, rest⟩
        ((entries.erase (itemKey (f.taken + 1))).insert oldestKey (itemKey (f.taken + 2)))

/-- A write under a number that is not in use leaves what is kept alone. -/
theorem Keeps.insert (keeps : Keeps entries f) {n : Nat} (beyond : f.latest < n)
    (small : n < UInt64.size) (data : Bytes) : Keeps (entries.insert (itemKey n) data) f where
  oldest := by
    obtain ⟨word, stored, oldest⟩ := keeps.oldest
    refine ⟨word, ?_, oldest⟩
    rw [sentinel_insert_of_ne _ (itemKey_ne_oldestKey _).symm, stored]
  latest := by rw [sentinel_insert_of_ne _ (itemKey_ne_latestKey _).symm, keeps.latest]
  item i inside behind := by
    simp only [Fifo.latest] at beyond
    rw [SortedMap.get?_insert_of_ne _ (itemKey_ne (by omega) small (by omega)),
      keeps.item i inside behind]
  front data' rest items := by
    simp only [Fifo.latest, items, List.length_cons] at beyond
    rw [SortedMap.get?_insert_of_ne _ (itemKey_ne (by omega) small (by omega))]
    exact keeps.front data' rest items

theorem Keeps.put (keeps : Keeps entries f) (fits : f.Fits) (data : Bytes) :
    Keeps ((entries.insert (itemKey (f.latest + 1)) data).insert latestKey
      (itemKey (f.latest + 1))) (f.put data) where
  oldest := by
    obtain ⟨word, stored, oldest⟩ := keeps.oldest
    refine ⟨word, ?_, oldest⟩
    rw [sentinel_insert_of_ne _ latestKey_ne_oldestKey.symm,
      sentinel_insert_of_ne _ (itemKey_ne_oldestKey _).symm, stored]
  latest := by
    rw [Fifo.latest_put]
    exact sentinel_insert_self _ _ _
  item i inside behind := by
    simp only [Fifo.Fits, Fifo.latest] at fits
    simp only [Fifo.put, List.length_append, List.length_singleton] at inside ⊢
    rw [SortedMap.get?_insert_of_ne _ (itemKey_ne_latestKey _), Fifo.latest,
      show f.taken + f.items.length + 1 = f.taken + 1 + f.items.length by omega]
    by_cases last : i = f.items.length
    · subst last
      simp only [SortedMap.get?_insert_self, List.getElem_concat_length]
    · have before : i < f.items.length := by omega
      rw [SortedMap.get?_insert_of_ne _ (itemKey_ne (by omega) (by omega) (by omega)),
        keeps.item i before behind, List.getElem_append_left before]
  front data' rest items := by
    simp only [Fifo.Fits, Fifo.latest] at fits
    simp only [Fifo.put] at items ⊢
    rw [SortedMap.get?_insert_of_ne _ (itemKey_ne_latestKey _), Fifo.latest]
    cases before : f.items with
    | nil =>
      rw [before] at items
      cases items
      left
      rw [List.length_nil, Nat.add_zero, SortedMap.get?_insert_self]
    | cons first later =>
      rw [before] at items
      cases items
      rw [before, List.length_cons] at fits
      rw [SortedMap.get?_insert_of_ne _ (itemKey_ne (by omega) (by rw [List.length_cons]; omega)
        (by rw [List.length_cons]; omega))]
      exact keeps.front _ _ before

theorem Keeps.tear (keeps : Keeps entries f) (fits : f.Fits) :
    Keeps (entries.erase (itemKey (f.taken + 1))) f where
  oldest := by
    obtain ⟨word, stored, oldest⟩ := keeps.oldest
    refine ⟨word, ?_, oldest⟩
    rw [sentinel_erase_of_ne _ (itemKey_ne_oldestKey _).symm, stored]
  latest := by rw [sentinel_erase_of_ne _ (itemKey_ne_latestKey _).symm, keeps.latest]
  item i inside behind := by
    simp only [Fifo.Fits, Fifo.latest] at fits
    rw [SortedMap.get?_erase_of_ne _ (itemKey_ne (by omega) (by omega) (by omega)),
      keeps.item i inside behind]
  front _ _ _ := .inr (SortedMap.get?_erase_self _ _)

theorem Keeps.take {data : Bytes} {rest : List Bytes} (keeps : Keeps entries f) (fits : f.Fits)
    (items : f.items = data :: rest) :
    Keeps ((entries.erase (itemKey (f.taken + 1))).insert oldestKey (itemKey (f.taken + 2)))
      ⟨f.taken + 1, rest⟩ := by
  have next : ∀ i (inside : i < rest.length),
      entries.get? (itemKey (f.taken + 1 + 1 + i)) = some rest[i] := by
    intro i inside
    have stored := keeps.item (i + 1) (by rw [items, List.length_cons]; omega) (Nat.succ_pos i)
    simp only [items, List.getElem_cons_succ] at stored
    rw [show f.taken + 1 + 1 + i = f.taken + 1 + (i + 1) by omega, stored]
  simp only [Fifo.Fits, Fifo.latest, items, List.length_cons] at fits
  have untouched : ∀ i (_ : i < rest.length),
      ((entries.erase (itemKey (f.taken + 1))).insert oldestKey (itemKey (f.taken + 2))).get?
        (itemKey (f.taken + 1 + 1 + i)) = some rest[i] := by
    intro i inside
    rw [SortedMap.get?_insert_of_ne _ (itemKey_ne_oldestKey _),
      SortedMap.get?_erase_of_ne _ (itemKey_ne (by omega) (by omega) (by omega)), next i inside]
  constructor
  · refine ⟨_, sentinel_insert_self _ _ _, max_one_of_le ?_⟩
    rw [UInt64.le_iff_toNat_le, UInt64.toNat_ofNat_of_lt' (by omega), UInt64.toNat_one]
    omega
  · rw [sentinel_insert_of_ne _ latestKey_ne_oldestKey,
      sentinel_erase_of_ne _ (itemKey_ne_latestKey _).symm, keeps.latest]
    simp only [Fifo.latest, items, List.length_cons]
    congr 2
    omega
  · exact fun i inside _ => untouched i inside
  · rintro first later same
    dsimp only at same
    subst same
    exact .inl (untouched 0 (by simp))

/-- Whatever an operation does, the entries go on representing the queue. -/
theorem Effect.keeps {op : QueueOp} {answer : Except Error QueueAnswer} (fits : f.Fits)
    (effect : Effect f entries op answer f' entries') (keeps : Keeps entries f) :
    Keeps entries' f' := by
  cases effect with
  | failed | looked => exact keeps
  | orphaned data =>
    have room := fits
    simp only [Fifo.Fits] at room
    exact keeps.insert (Nat.lt_succ_self _) (by omega) data
  | stored data => exact keeps.put fits data
  | torn => exact keeps.tear fits
  | taken items => exact keeps.take fits items

/-! ## Opening -/

theorem tries_readSequence {key : Bytes} {word : UInt64}
    (candid : FaultRule.Candid (w.rules cell))
    (stored : sentinel (w.probed cell) key = some word) :
    Tries cell (readSequence (.probe cell traits) key) w word := by
  refine (tries_find candid).bind fun w' reading => ?_
  unfold sentinel at stored
  cases held : (w.probed cell).get? key with
  | none =>
    rw [held] at stored
    cases stored
    exact .pure 0 w'
  | some raw =>
    rw [held] at stored
    simp only [stored]
    exact .pure word w'

/-- Opening a store that holds a queue finds its range, or fails as the store does. -/
theorem tries_openOn (traits : ProbeTraits) (candid : FaultRule.Candid (w.rules cell))
    (fits : f.Fits) (keeps : Keeps (w.probed cell) f) :
    Tries cell (openOn (.probe cell traits)) w (probing cell traits f) := by
  obtain ⟨word, stored, oldest⟩ := keeps.oldest
  refine ((tries_readSequence candid stored).inContext _).bind fun w₁ reading₁ => ?_
  have latest : sentinel (w₁.probed cell) latestKey = some (UInt64.ofNat f.latest) := by
    rw [reading₁.entries, keeps.latest]
  refine ((tries_readSequence (reading₁.candid candid) latest).inContext _).bind
    fun w₂ reading₂ => ?_
  simp only [oldest, if_neg (not_ahead fits)]
  exact (tries_report _).bind fun w₃ _ => .pure _ w₃

/-! ## One operation -/

/-- Whatever the rules, a walk ends and leaves the entries alone. -/
theorem walk_reads (it : QueueWalk) (overProbe : it.store = .probe cell traits) (w : World) :
    ∃ shown w', it.all.run w = .ok shown w' ∧ Reading cell w w' := by
  obtain ⟨outcome, rest, w₁, run, reading, same⟩ : ∃ outcome rest w₁,
      it.step.run w = .ok (outcome, rest) w₁ ∧ Reading cell w w₁ ∧
        rest.store = .probe cell traits := by
    by_cases ended : it.next = 0 ∨ it.last < it.next
    · refine ⟨none, it, w, ?_, .refl w, overProbe⟩
      simp only [QueueWalk.step, if_pos ended, EStateM.run_pure]
    · have reading := Reading.entered cell w (.get (Word.toBytes it.next))
      simp only [QueueWalk.step, if_neg ended, EStateM.run_bind, run_attempt, overProbe, Store.get,
        Store.storage, Storage.run_probe_get]
      cases w.fault? cell (.get (Word.toBytes it.next)) with
      | some e => exact ⟨_, _, _, rfl, reading, rfl⟩
      | none =>
        cases (w.probed cell).get? (Word.toBytes it.next) with
        | none => exact ⟨_, _, _, rfl, reading, rfl⟩
        | some data => exact ⟨_, _, _, rfl, reading, rfl⟩
  cases outcome with
  | none => exact ⟨[], w₁, QueueWalk.run_all_of_end run, reading⟩
  | some shown =>
    have fewer : rest.remaining < it.remaining := QueueWalk.remaining_lt run
    obtain ⟨later, w₂, run', reading'⟩ := walk_reads rest same w₁
    exact ⟨shown :: later, w₂, QueueWalk.run_all_of_shown run run', reading.trans reading'⟩
termination_by it.remaining

/-- The operation ends, with one of the effects that operations can have. -/
def Performs (cell : Ref .probe) (traits : ProbeTraits) (f : Fifo) (op : QueueOp) (w : World) :
    Prop :=
  ∃ answer f' w', ((probing cell traits f).perform op).run w =
      .ok (answer, probing cell traits f') w' ∧
    Effect f (w.probed cell) op answer f' (w'.probed cell)

theorem performs_of_ok {op : QueueOp} {answer : QueueAnswer}
    (run : ((probing cell traits f).act op).run w = .ok (answer, probing cell traits f') w₁)
    (effect : Effect f (w.probed cell) op (.ok answer) f' (w₁.probed cell)) :
    Performs cell traits f op w := by
  refine ⟨_, _, _, ?_, effect⟩
  simp only [perform, EStateM.run_bind, run_attempt, run, EStateM.run_pure]

theorem performs_of_error {op : QueueOp} {e : Error}
    (run : ((probing cell traits f).act op).run w = .error e w₁)
    (effect : Effect f (w.probed cell) op (.error e) f (w₁.probed cell)) :
    Performs cell traits f op w := by
  refine ⟨_, _, _, ?_, effect⟩
  simp only [perform, EStateM.run_bind, run_attempt, run, EStateM.run_pure]

section Programs

variable (cell traits)

theorem act_put (fits : f.Fits) (data : Bytes) :
    (probing cell traits f).act (.put data) = do
      Store.put (.probe cell traits) (itemKey (f.latest + 1)) data
      Store.put (.probe cell traits) latestKey (itemKey (f.latest + 1))
      return (.stored (f.latest + 1), probing cell traits (f.put data)) := by
  have notLast : (probing cell traits f).range.latest ≠ 0xFFFFFFFFFFFFFFFF :=
    notLast_probing fits
  have next : (probing cell traits f).range.latest + 1 = UInt64.ofNat (f.latest + 1) :=
    ofNat_succ f.latest
  have number : (UInt64.ofNat (f.latest + 1)).toNat = f.latest + 1 := by
    simp only [Fifo.Fits] at fits
    exact UInt64.toNat_ofNat_of_lt' (by omega)
  simp only [act, StoredQueue.put, if_neg notLast, next, bind_assoc, pure_bind, number]
  simp only [probing, SequenceRange.ofFifo, Fifo.latest_put]
  rfl

theorem peek_nil (fits : f.Fits) (items : f.items = []) :
    (probing cell traits f).peek = throw .notFound := by
  simp only [peek, isEmpty_probing fits, items, List.isEmpty_nil, if_true]
  rfl

theorem peek_cons (fits : f.Fits) {data : Bytes} {rest : List Bytes}
    (items : f.items = data :: rest) :
    (probing cell traits f).peek = Store.get (.probe cell traits) (itemKey (f.taken + 1)) := by
  simp only [peek, isEmpty_probing fits, items, List.isEmpty_cons, Bool.false_eq_true, if_false]
  rfl

theorem discard_nil (fits : f.Fits) (items : f.items = []) :
    (probing cell traits f).discard = throw .notFound := by
  simp only [discard, isEmpty_probing fits, items, List.isEmpty_nil, if_true]
  rfl

theorem discard_cons (fits : f.Fits) {data : Bytes} {rest : List Bytes}
    (items : f.items = data :: rest) :
    (probing cell traits f).discard = do
      Store.del (.probe cell traits) (itemKey (f.taken + 1))
      Store.put (.probe cell traits) oldestKey (itemKey (f.taken + 2))
      return probing cell traits ⟨f.taken + 1, rest⟩ := by
  have next : (probing cell traits f).range.oldest + 1 = UInt64.ofNat (f.taken + 2) :=
    ofNat_succ (f.taken + 1)
  have latest : f.latest = Fifo.latest ⟨f.taken + 1, rest⟩ := by
    simp only [Fifo.latest, items, List.length_cons]
    omega
  simp only [discard, isEmpty_probing fits, items, List.isEmpty_cons, Bool.false_eq_true, if_false,
    next]
  simp only [probing, SequenceRange.ofFifo, latest]
  rfl

end Programs

theorem performs_put (fits : f.Fits) (data : Bytes) (w : World) :
    Performs cell traits f (.put data) w := by
  have program := act_put cell traits fits data
  cases writes_put cell traits (itemKey (f.latest + 1)) data w with
  | failed run same =>
    apply performs_of_error
    · rw [program, EStateM.run_bind, run]
    · rw [same]
      exact .failed _
  | @done w₁ run written =>
    cases writes_put cell traits latestKey (itemKey (f.latest + 1)) w₁ with
    | failed run' same =>
      apply performs_of_error
      · rw [program, EStateM.run_bind, run]
        dsimp only
        rw [EStateM.run_bind, run']
      · rw [same, written]
        exact .orphaned data _
    | done run' written' =>
      apply performs_of_ok
      · rw [program, EStateM.run_bind, run]
        dsimp only
        rw [EStateM.run_bind, run']
        rfl
      · rw [written', written]
        exact .stored data

/-- Dropping the oldest item fails before or after it is deleted, or succeeds. -/
theorem discard_ends (fits : f.Fits) {data : Bytes} {rest : List Bytes}
    (items : f.items = data :: rest) (w : World) :
    (∃ e w', (probing cell traits f).discard.run w = .error e w' ∧
      (w'.probed cell = w.probed cell ∨
        w'.probed cell = (w.probed cell).erase (itemKey (f.taken + 1)))) ∨
    ∃ w', (probing cell traits f).discard.run w = .ok (probing cell traits ⟨f.taken + 1, rest⟩) w' ∧
      w'.probed cell =
        ((w.probed cell).erase (itemKey (f.taken + 1))).insert oldestKey
          (itemKey (f.taken + 2)) := by
  rw [discard_cons cell traits fits items, EStateM.run_bind]
  cases writes_del cell traits (itemKey (f.taken + 1)) w with
  | failed run same =>
    rw [run]
    exact .inl ⟨_, _, rfl, .inl same⟩
  | @done w₁ run written =>
    rw [run]
    dsimp only
    rw [EStateM.run_bind]
    cases writes_put cell traits oldestKey (itemKey (f.taken + 2)) w₁ with
    | failed run' same =>
      rw [run']
      exact .inl ⟨_, _, rfl, .inr (same.trans written)⟩
    | done run' written' =>
      rw [run']
      exact .inr ⟨_, rfl, by rw [written', written]⟩

theorem performs_discard (fits : f.Fits) (w : World) : Performs cell traits f .discard w := by
  have opened : (probing cell traits f).act .discard =
      (probing cell traits f).discard >>= fun q => return (.done, q) := rfl
  cases items : f.items with
  | nil =>
    have run : ((probing cell traits f).act .discard).run w = .error .notFound w := by
      rw [opened, discard_nil cell traits fits items, EStateM.run_bind, run_throw_any]
    exact performs_of_error run (.failed _)
  | cons data rest =>
    obtain ⟨e, w', run, left⟩ | ⟨w', run, left⟩ := discard_ends fits items w
    · apply performs_of_error
      · rw [opened, EStateM.run_bind, run]
      · cases left with
        | inl same =>
          rw [same]
          exact .failed _
        | inr deleted =>
          rw [deleted]
          exact .torn (.inl rfl) e (by simp [items])
    · apply performs_of_ok
      · rw [opened, EStateM.run_bind, run]
        rfl
      · rw [left]
        exact .taken items (.inl ⟨rfl, rfl⟩)

/-- Reading the oldest item answers it if it is there, or fails. -/
theorem peek_ends (fits : f.Fits) (w : World) :
    (∃ e w', (probing cell traits f).peek.run w = .error e w' ∧ Reading cell w w') ∨
    ∃ data w', (probing cell traits f).peek.run w = .ok data w' ∧ Reading cell w w' ∧
      (w.probed cell).get? (itemKey (f.taken + 1)) = some data ∧ f.items ≠ [] := by
  cases items : f.items with
  | nil =>
    rw [peek_nil cell traits fits items]
    exact .inl ⟨_, _, rfl, .refl w⟩
  | cons data rest =>
    have reading := Reading.entered cell w (.get (itemKey (f.taken + 1)))
    rw [peek_cons cell traits fits items, Store.get, Store.storage, Storage.run_probe_get]
    cases w.fault? cell (.get (itemKey (f.taken + 1))) with
    | some e => exact .inl ⟨_, _, rfl, reading⟩
    | none =>
      cases held : (w.probed cell).get? (itemKey (f.taken + 1)) with
      | none => exact .inl ⟨_, _, rfl, reading⟩
      | some data => exact .inr ⟨_, _, rfl, reading, rfl, by simp⟩

theorem performs_get (fits : f.Fits) (keeps : Keeps (w.probed cell) f) :
    Performs cell traits f .get w := by
  have opened : (probing cell traits f).act .get = do
      let data ← (probing cell traits f).peek
      let q ← (probing cell traits f).discard
      return (.data data, q) := by
    simp only [act, StoredQueue.get, bind_assoc, pure_bind]
  obtain ⟨e, w', run, reading⟩ | ⟨data, w₁, run, reading, held, some⟩ := peek_ends fits w
  · apply performs_of_error
    · rw [opened, EStateM.run_bind, run]
    · rw [reading.entries]
      exact .failed _
  · obtain ⟨first, rest, items⟩ := List.exists_cons_of_ne_nil some
    have same : first = data := by
      cases keeps.front first rest items with
      | inl there => exact Option.some.inj (there.symm.trans held)
      | inr gone =>
        rw [gone] at held
        cases held
    subst same
    obtain ⟨e, w₂, run', left⟩ | ⟨w₂, run', left⟩ := discard_ends fits items w₁
    · apply performs_of_error
      · rw [opened, EStateM.run_bind, run]
        dsimp only
        rw [EStateM.run_bind, run']
      · rw [reading.entries] at left
        cases left with
        | inl same =>
          rw [same]
          exact .failed _
        | inr deleted =>
          rw [deleted]
          exact .torn (.inr rfl) e some
    · apply performs_of_ok
      · rw [opened, EStateM.run_bind, run]
        dsimp only
        rw [EStateM.run_bind, run']
        rfl
      · rw [left, reading.entries]
        exact .taken items (.inr ⟨rfl, rfl⟩)

/-- Every operation has one of the effects that operations can have, whatever fails meanwhile. -/
theorem performs (traits : ProbeTraits) (op : QueueOp) (candid : FaultRule.Candid (w.rules cell))
    (fits : f.Fits) (keeps : Keeps (w.probed cell) f) : Performs cell traits f op w := by
  have failed : ∀ {op e w'}, Reading cell w w' →
      Effect f (w.probed cell) op (.error e) f (w'.probed cell) := by
    intro op e w' reading
    rw [reading.entries]
    exact .failed e
  have looked : ∀ {op answer w'}, ¬ op.Changes → (∀ n, answer ≠ .stored n) →
      Reading cell w w' → Effect f (w.probed cell) op (.ok answer) f (w'.probed cell) := by
    intro op answer w' spares unnumbered reading
    rw [reading.entries]
    exact .looked spares unnumbered
  cases op with
  | put data => exact performs_put fits data w
  | discard => exact performs_discard fits w
  | get => exact performs_get fits keeps
  | size | oldest | latest | isEmpty =>
    exact performs_of_ok rfl (looked (by simp [QueueOp.Changes, QueueOp.Takes]) (by simp) (.refl w))
  | peek =>
    have opened : (probing cell traits f).act .peek = do
      return (.data (← (probing cell traits f).peek), probing cell traits f) := rfl
    obtain ⟨e, w', run, reading⟩ | ⟨data, w', run, reading, -⟩ := peek_ends fits w
    · apply performs_of_error
      · rw [opened, EStateM.run_bind, run]
      · exact failed reading
    · apply performs_of_ok
      · rw [opened, EStateM.run_bind, run]
        rfl
      · exact looked (by simp [QueueOp.Changes, QueueOp.Takes]) (by simp) reading
  | walk =>
    obtain ⟨shown, w', run, reading⟩ := walk_reads (QueueWalk.start (probing cell traits f)) rfl w
    apply performs_of_ok
    · rw [act, EStateM.run_bind, run]
      rfl
    · exact looked (by simp [QueueOp.Changes, QueueOp.Takes]) (by simp) reading
  | reopen =>
    have opened : (probing cell traits f).act .reopen = do
      return (.done, ← openOn (.probe cell traits)) := rfl
    cases tries_openOn traits candid fits keeps with
    | answers reading run =>
      apply performs_of_ok
      · rw [opened, EStateM.run_bind, run]
        rfl
      · exact looked (by simp [QueueOp.Changes, QueueOp.Takes]) (by simp) reading
    | fails reading _ run =>
      apply performs_of_error
      · rw [opened, EStateM.run_bind, run]
      · exact failed reading

end StoredQueue

end StoreGraph
