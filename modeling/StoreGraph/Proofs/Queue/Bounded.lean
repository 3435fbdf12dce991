import StoreGraph.Proofs.Frame
import StoreGraph.Proofs.Queue.History
import StoreGraph.Proofs.Queue.Trimming

/-! # Bounded queues over a failing store

What operations of a bounded queue do when any call of its store may fail without effect. Below a
bounded queue there is a queue without a bound, and all operations but `put` do what they do to it.
A `put` that succeeds is trimmed from the front (`Trimmed`): what is left is the end of the longer
queue, and its oldest item can only be gone if trimming was stopped by a failure, or if nothing was
dropped and the item was gone before.
-/

namespace StoreGraph

/-- The sequence numbers in use, the oldest one first. -/
def SequenceRange.numbers (r : SequenceRange) : List Nat :=
  List.range' r.oldest.toNat (r.latest.toNat + 1 - r.oldest.toNat)

namespace Fifo

variable {f : Fifo} {n : Nat}

/-- The queue without its oldest items. -/
def drop (f : Fifo) (n : Nat) : Fifo := ⟨f.taken + n, f.items.drop n⟩

theorem latest_drop (inside : n ≤ f.items.length) : (f.drop n).latest = f.latest := by
  simp only [latest, drop, List.length_drop]
  omega

theorem numbered_drop (f : Fifo) (n : Nat) : (f.drop n).numbered = f.numbered.drop n := by
  apply List.ext_getElem
  · simp [numbered, drop]
  · intro i _ _
    simp only [numbered, drop, List.getElem_map, List.getElem_zipIdx, List.getElem_drop,
      Prod.mk.injEq, and_true]
    omega

end Fifo

namespace StoredQueue

variable {cell : Ref .probe} {traits : ProbeTraits} {f f' : Fifo} {w : World}
  {entries entries' : SortedMap Bytes Bytes}

theorem toNat_size_probing (fits : f.Fits) : (probing cell traits f).size.toNat = f.items.length :=
  @toNat_size_ofFifo ⟨0⟩ f fits

theorem numbers_probing (fits : f.Fits) :
    (probing cell traits f).range.numbers = f.numbered.map Prod.fst := by
  rw [SequenceRange.numbers, toNat_oldest_probing fits, toNat_latest_probing fits,
    f.numbers_numbered, Fifo.latest]
  congr 1
  omega

/-- An operation that fails does not change which items are counted. -/
theorem Effect.of_error {op : QueueOp} {e : Error}
    (effect : Effect f entries op (.error e) f' entries') : f' = f := by
  cases effect with
  | failed | orphaned | torn => rfl

/-- Every operation has one of the effects that operations can have, whatever fails meanwhile. -/
theorem act_ends (traits : ProbeTraits) (op : QueueOp) (candid : FaultRule.Candid (w.rules cell))
    (fits : f.Fits) (keeps : Keeps (w.probed cell) f) :
    (∃ answer f' w', ((probing cell traits f).act op).run w =
        .ok (answer, probing cell traits f') w' ∧
      Effect f (w.probed cell) op (.ok answer) f' (w'.probed cell)) ∨
    ∃ e w', ((probing cell traits f).act op).run w = .error e w' ∧
      Effect f (w.probed cell) op (.error e) f (w'.probed cell) := by
  obtain ⟨answer, f', w', run, effect⟩ := performs traits op candid fits keeps
  simp only [perform, EStateM.run_bind, run_attempt] at run
  cases acted : ((probing cell traits f).act op).run w with
  | ok outcome w₁ =>
    rw [acted] at run
    simp only [EStateM.run_pure, EStateM.Result.ok.injEq, Prod.mk.injEq] at run
    obtain ⟨⟨rfl, live⟩, rfl⟩ := run
    exact .inl ⟨outcome.1, f', w₁, by rw [← live], effect⟩
  | error e w₁ =>
    rw [acted] at run
    simp only [EStateM.run_pure, EStateM.Result.ok.injEq, Prod.mk.injEq] at run
    obtain ⟨⟨rfl, -⟩, rfl⟩ := run
    obtain rfl := effect.of_error
    exact .inr ⟨_, _, rfl, effect⟩

/-- An operation that is told no number only takes items from the front. -/
theorem Effect.queued {op : QueueOp} {answer : Except Error QueueAnswer}
    (effect : Effect f entries op answer f' entries') (silent : storedNumbers [answer] = []) :
    f'.numbered <:+ f.numbered := by
  cases effect with
  | failed | looked | orphaned | torn => exact List.suffix_refl _
  | stored => cases silent
  | @taken _ _ data rest items =>
    have one : f.drop 1 = ⟨f.taken + 1, rest⟩ := by
      rw [Fifo.drop, items]
      rfl
    rw [← one, f.numbered_drop]
    exact List.drop_suffix _ _

/-- Only a `put` is told a number. -/
theorem Effect.silent {op : QueueOp} {answer : Except Error QueueAnswer}
    (effect : Effect f entries op answer f' entries') (other : ∀ data, op ≠ .put data) :
    storedNumbers [answer] = [] := by
  cases effect with
  | failed | orphaned | torn => rfl
  | @looked _ answer _ unnumbered =>
    cases answer with
    | stored n => exact absurd rfl (unnumbered n)
    | done | data | number | flag | items => rfl
  | stored data => exact absurd rfl (other data)
  | taken _ answers =>
    obtain ⟨-, rfl⟩ | ⟨-, rfl⟩ := answers
    · rfl
    · rfl

/-- Opening the queue again leaves the entries alone. -/
theorem Effect.reopened {op : QueueOp} {answer : Except Error QueueAnswer}
    (effect : Effect f entries op answer f' entries') (reopens : op = .reopen) :
    entries' = entries := by
  cases effect with
  | failed | looked => rfl
  | orphaned | stored => cases reopens
  | torn takes => simp [reopens, QueueOp.Takes] at takes
  | taken _ answers => simp [reopens] at answers

/-- A `put` of the queue below fails, or appends the item. -/
theorem put_ends (traits : ProbeTraits) (data : Bytes) (candid : FaultRule.Candid (w.rules cell))
    (fits : f.Fits) (keeps : Keeps (w.probed cell) f) :
    (∃ w', ((probing cell traits f).put data).run w = .ok (probing cell traits (f.put data)) w' ∧
      Effect f (w.probed cell) (.put data) (.ok (.stored (f.latest + 1))) (f.put data)
        (w'.probed cell)) ∨
    ∃ e w', ((probing cell traits f).put data).run w = .error e w' ∧
      Effect f (w.probed cell) (.put data) (.error e) f (w'.probed cell) := by
  have opened : (probing cell traits f).act (.put data) = do
    let q ← (probing cell traits f).put data
    return (.stored q.range.latest.toNat, q) := rfl
  obtain ⟨answer, f', w', run, effect⟩ | ⟨e, w', run, effect⟩ :=
    act_ends traits (.put data) candid fits keeps
  · rw [opened] at run
    obtain ⟨q, w₁, ran, rest⟩ := run_bind_eq_ok_iff.mp run
    simp only [EStateM.run_pure, EStateM.Result.ok.injEq, Prod.mk.injEq] at rest
    obtain ⟨⟨-, rfl⟩, rfl⟩ := rest
    generalize entered : w₁.probed cell = entries at effect
    generalize hop : QueueOp.put data = op at effect
    cases effect with
    | looked spares => exact absurd (.inr ⟨data, hop.symm⟩) spares
    | stored data' =>
      cases hop
      exact .inl ⟨w₁, ran, by rw [entered]; exact .stored data⟩
    | taken _ answers =>
      subst hop
      simp at answers
  · rw [opened, EStateM.run_bind] at run
    cases ran : ((probing cell traits f).put data).run w with
    | ok q w₁ =>
      rw [ran] at run
      cases run
    | error e' w₁ =>
      rw [ran] at run
      cases run
      exact .inr ⟨e, w', rfl, effect⟩

/-- Both writes of a `put` succeed in this world. -/
def Written (q : StoredQueue) (data : Bytes) (w : World) : Prop :=
  ∃ w₁ w₂, (q.store.put (Word.toBytes (q.range.latest + 1)) data).run w = .ok () w₁ ∧
    (q.store.put latestKey (Word.toBytes (q.range.latest + 1))).run w₁ = .ok () w₂

/-- A queue whose numbers are not exhausted is put into exactly if both writes succeed. -/
theorem put_ok_iff {q : StoredQueue} {data : Bytes}
    (notLast : q.range.latest ≠ 0xFFFFFFFFFFFFFFFF) :
    (∃ q' w', (q.put data).run w = .ok q' w') ↔ q.Written data w := by
  rw [StoredQueue.put, if_neg notLast]
  constructor
  · rintro ⟨q', w', run⟩
    obtain ⟨_, w₁, first, run⟩ := run_bind_eq_ok_iff.mp run
    obtain ⟨_, w₂, second, -⟩ := run_bind_eq_ok_iff.mp run
    exact ⟨w₁, w₂, first, second⟩
  · rintro ⟨w₁, w₂, first, second⟩
    exact ⟨_, w₂, run_bind_eq_ok_iff.mpr
      ⟨(), w₁, first, run_bind_eq_ok_iff.mpr ⟨(), w₂, second, rfl⟩⟩⟩

/-! ## Counters -/

/-- The action does not count anything. -/
abbrev Countless {α : Type} (x : StoreM α) : Prop := Moves (fun w w' => w'.counters = w.counters) x

theorem countless_write (call : Call) (f : Probe → Probe) :
    Countless (Probe.write cell call f) := by
  intro w
  have run := Probe.run_write cell w call f
  rw [stateAfter, run]
  cases w.fault? cell call with
  | some e => rfl
  | none => rfl

theorem countless_store_put (traits : ProbeTraits) (key value : Bytes) :
    Countless (Store.put (.probe cell traits) key value) :=
  countless_write (.put key value) (·.put key value)

theorem countless_store_del (traits : ProbeTraits) (key : Bytes) :
    Countless (Store.del (.probe cell traits) key) :=
  countless_write (.del key) (·.del key)

variable {q : StoredQueue} (overProbe : q.store = .probe cell traits)

include overProbe

theorem countless_put (data : Bytes) : Countless (q.put data) := by
  have frame := frame_same World.counters
  unfold StoredQueue.put
  rw [overProbe]
  split
  · exact .throw frame _
  · refine .bind frame (countless_store_put traits _ data) fun _ => ?_
    exact .bind frame (countless_store_put traits _ _) fun _ => .pure frame _

theorem countless_discard : Countless q.discard := by
  have frame := frame_same World.counters
  unfold StoredQueue.discard
  rw [overProbe]
  split
  · exact .throw frame _
  · refine .bind frame (countless_store_del traits _) fun _ => ?_
    exact .bind frame (countless_store_put traits _ _) fun _ => .pure frame _

end StoredQueue

namespace BoundedQueue

open StoredQueue

variable {cell : Ref .probe} {traits : ProbeTraits} {f f' : Fifo} {q q' : StoredQueue}
  {w w' : World} {entries entries' : SortedMap Bytes Bytes} {limit : UInt64} {met : Option Error}

theorem Trims.counters (trims : Trims limit q w met q' w')
    (overProbe : q.store = .probe cell traits) : w'.counters = w.counters := by
  induction trims with
  | fits => rfl
  | @dropped _ w _ _ _ _ _ _ run _ ih =>
    rw [range_of_discard run] at ih
    exact (ih overProbe).trans ((countless_discard overProbe).of_ok run)
  | @failed _ w _ _ _ run => exact (countless_discard overProbe).of_error run

theorem probed_noteTrim (cell : Ref .probe) (limit size : UInt64) (w : World) (met : Option Error) :
    (w.noteTrim limit size met).probed cell = w.probed cell := by
  cases met with
  | none => rfl
  | some e => rfl

theorem trimFailures_noteTrim (limit size : UInt64) (w : World) (met : Option Error) :
    (w.noteTrim limit size met).counters.trimFailures =
      w.counters.trimFailures + if met.isSome then 1 else 0 := by
  cases met with
  | none => rfl
  | some e => rfl

/-! ## What trimming leaves -/

/-- The items and entries that trimming leaves of a queue, and the failure that it met if it met
    one. -/
structure Trimmed (limit : UInt64) (f : Fifo) (entries : SortedMap Bytes Bytes)
    (met : Option Error) (f' : Fifo) (entries' : SortedMap Bytes Bytes) : Prop where
  part : ∃ n ≤ f.items.length, f' = f.drop n
  keeps : Keeps entries' f'
  fits : met = none → f'.items.length = min limit.toNat f.items.length
  exceeds : met ≠ none → limit.toNat < f'.items.length
  /-- The oldest item is gone only if this is how trimming was stopped, or if it was gone before. -/
  front : f'.items ≠ [] → entries'.get? (itemKey (f'.taken + 1)) = none →
    met ≠ none ∨ f' = f ∧ entries.get? (itemKey (f.taken + 1)) = none

theorem Trims.trimmed (trims : Trims limit q w met q' w') (live : q = probing cell traits f)
    (fits : f.Fits) (keeps : Keeps (w.probed cell) f) :
    ∃ f', q' = probing cell traits f' ∧
      Trimmed limit f (w.probed cell) met f' (w'.probed cell) := by
  induction trims generalizing f with
  | @fits q w small =>
    refine ⟨f, live, ⟨0, Nat.zero_le _, rfl⟩, keeps, fun _ => ?_, fun some => absurd rfl some,
      fun _ gone => .inr ⟨rfl, gone⟩⟩
    rw [live, UInt64.le_iff_toNat_le, toNat_size_probing fits] at small
    exact (Nat.min_eq_right small).symm
  | @dropped q w q₁ w₁ met q' w' exceeds run _ ih =>
    subst live
    rw [UInt64.lt_iff_toNat_lt, toNat_size_probing fits] at exceeds
    obtain ⟨data, rest, items⟩ := List.exists_cons_of_length_pos (Nat.zero_lt_of_lt exceeds)
    obtain ⟨e, w₂, run', -⟩ | ⟨w₂, run', left⟩ := discard_ends fits items w
    · cases run'.symm.trans run
    · cases run'.symm.trans run
      have effect : Effect f (w.probed cell) .discard (.ok .done) ⟨f.taken + 1, rest⟩
          (w₁.probed cell) := by
        rw [left]
        exact .taken items (.inl ⟨rfl, rfl⟩)
      have one : f.drop 1 = ⟨f.taken + 1, rest⟩ := by
        rw [Fifo.drop, items]
        rfl
      have latest : Fifo.latest ⟨f.taken + 1, rest⟩ = f.latest := by
        rw [← one]
        exact Fifo.latest_drop (Nat.zero_lt_of_lt exceeds)
      have fits₁ : Fifo.Fits ⟨f.taken + 1, rest⟩ := by
        rw [Fifo.Fits, latest]
        exact fits
      obtain ⟨f', live', trimmed⟩ := ih rfl fits₁ (effect.keeps fits keeps)
      refine ⟨f', live', ?_, trimmed.keeps, fun none => ?_, trimmed.exceeds, fun more gone => ?_⟩
      · obtain ⟨n, inside, rfl⟩ := trimmed.part
        refine ⟨n + 1, by rw [items]; exact Nat.succ_le_succ inside, ?_⟩
        simp only [Fifo.drop, items, List.drop_succ_cons]
        congr 1
        omega
      · rw [trimmed.fits none]
        rw [items, List.length_cons] at exceeds ⊢
        dsimp only
        omega
      · obtain stopped | ⟨rfl, before⟩ := trimmed.front more gone
        · exact .inl stopped
        · cases effect.front fits keeps (by simp [items]) with
          | taken _ _ front => exact absurd before (front more)
          | same taken | torn taken => simp at taken
  | @failed q w e w' exceeds run =>
    subst live
    rw [UInt64.lt_iff_toNat_lt, toNat_size_probing fits] at exceeds
    obtain ⟨data, rest, items⟩ := List.exists_cons_of_length_pos (Nat.zero_lt_of_lt exceeds)
    refine ⟨f, rfl, ⟨0, Nat.zero_le _, rfl⟩, ?_,
      fun trimmed => absurd trimmed (Option.some_ne_none e), fun _ => exceeds,
      fun _ _ => .inl (Option.some_ne_none e)⟩
    obtain ⟨e, w₂, run', same | deleted⟩ | ⟨w₂, run', -⟩ := discard_ends fits items w
    · cases run'.symm.trans run
      rw [same]
      exact keeps
    · cases run'.symm.trans run
      rw [deleted]
      exact keeps.tear fits
    · cases run'.symm.trans run

end BoundedQueue

end StoreGraph
