import StoreGraph.Proofs.Queue.Layout

/-! # Operations on a stored queue

What each operation of a queue answers, and which queue its store holds afterwards, when the store
is an in-memory store that holds a queue. A walk ends because it has ever less to show
(`remaining_lt`), so everything that it shows is a list (`QueueWalk.all`).
-/

namespace StoreGraph

namespace StoredQueue

variable {cell : Ref .memory} {f : Fifo} {w : World}

theorem toNat_oldest (cell : Ref .memory) (fits : f.Fits) :
    (ofFifo cell f).range.oldest.toNat = f.taken + 1 := by
  simp only [Fifo.Fits, Fifo.latest] at fits
  exact UInt64.toNat_ofNat_of_lt' (by omega)

theorem toNat_latest (cell : Ref .memory) (fits : f.Fits) :
    (ofFifo cell f).range.latest.toNat = f.latest := by
  simp only [Fifo.Fits] at fits
  exact UInt64.toNat_ofNat_of_lt' (by omega)

/-- The range of numbers is empty exactly if there is no item. -/
theorem isEmpty_ofFifo (fits : f.Fits) : (ofFifo cell f).isEmpty = f.items.isEmpty := by
  have oldest := toNat_oldest cell fits
  have latest := toNat_latest cell fits
  rw [Bool.eq_iff_iff]
  simp only [isEmpty, SequenceRange.isEmpty, Bool.or_eq_true, beq_iff_eq, decide_eq_true_eq,
    List.isEmpty_iff, ← UInt64.toNat_inj, UInt64.lt_iff_toNat_lt, oldest, latest,
    ← List.length_eq_zero_iff, UInt64.toNat_zero, Fifo.latest]
  omega

/-- The size of the range is the number of items. -/
theorem toNat_size_ofFifo (fits : f.Fits) : (ofFifo cell f).size.toNat = f.items.length := by
  have oldest := toNat_oldest cell fits
  have latest := toNat_latest cell fits
  have room := fits
  simp only [Fifo.Fits, Fifo.latest, UInt64.size] at room latest
  have notLast : (ofFifo cell f).range.latest ≠ 0xFFFFFFFFFFFFFFFF := by
    intro last
    rw [last] at latest
    simp at latest
    omega
  have after : ((ofFifo cell f).range.latest + 1).toNat = f.taken + f.items.length + 1 := by
    rw [UInt64.toNat_add, latest]
    simp
    omega
  simp only [size, SequenceRange.size, if_neg notLast]
  rw [if_neg (by rw [UInt64.lt_iff_toNat_lt, oldest, after]; omega),
    UInt64.toNat_sub_of_le _ _ (by rw [UInt64.le_iff_toNat_le, oldest, after]; omega), oldest,
    after]
  omega

/-- The number of the oldest item is never too far ahead to be recovered. -/
theorem not_ahead (fits : f.Fits) :
    ¬ (UInt64.ofNat f.latest < UInt64.ofNat (f.taken + 1) ∧
      1 < UInt64.ofNat (f.taken + 1) - UInt64.ofNat f.latest) := by
  have oldest := toNat_oldest ⟨0⟩ fits
  have latest := toNat_latest ⟨0⟩ fits
  simp only [ofFifo] at oldest latest
  rintro ⟨ahead, far⟩
  have le := UInt64.le_of_lt ahead
  rw [UInt64.lt_iff_toNat_lt, UInt64.toNat_sub_of_le _ _ le, oldest, latest] at far
  simp [Fifo.latest] at far
  omega

/-- Opening a store that holds a queue finds this queue, and leaves the entries alone. -/
theorem run_openOn (fits : f.Fits) (holds : Holds (w.entries cell) f) :
    ∃ w', (openOn (.memory cell)).run w = .ok (ofFifo cell f) w' ∧ w'.entries = w.entries := by
  obtain ⟨word, stored, oldest⟩ := holds.oldest
  refine ⟨{ w with events := w.events ++
    [.queueOpened (UInt64.ofNat (f.taken + 1)) (UInt64.ofNat f.latest)] }, ?_, rfl⟩
  simp only [openOn, EStateM.run_bind, run_withContext, run_readSequence stored,
    run_readSequence holds.latest, oldest, if_neg (not_ahead fits), EStateM.run_pure,
    StoreM.run_report, ofFifo]

/-- Appending an item succeeds, and the store holds the longer queue afterwards. -/
theorem run_put (holds : HoldsOnly (w.entries cell) f) (data : Bytes)
    (fits : (f.put data).Fits) :
    ∃ w', ((ofFifo cell f).put data).run w = .ok (ofFifo cell (f.put data)) w' ∧
      HoldsOnly (w'.entries cell) (f.put data) := by
  have before : f.Fits := by
    simp only [Fifo.Fits, Fifo.latest_put] at fits ⊢
    omega
  have notLast : (ofFifo cell f).range.latest ≠ 0xFFFFFFFFFFFFFFFF := by
    intro last
    have number := toNat_latest cell before
    rw [last] at number
    simp only [Fifo.Fits, UInt64.size] at before
    simp at number
    omega
  have next : (ofFifo cell f).range.latest + 1 = UInt64.ofNat (f.put data).latest := by
    rw [Fifo.latest_put, UInt64.ofNat_add]
    rfl
  let key := Word.toBytes (UInt64.ofNat (f.put data).latest)
  refine ⟨(w.changeMemory cell (·.put key data)).changeMemory cell (·.put latestKey key), ?_, ?_⟩
  · simp only [StoredQueue.put, if_neg notLast, next]
    rfl
  · simp only [World.entries_put, if_true]
    exact holds.put data fits

/-- Of an empty queue there is no oldest item. -/
theorem run_peek_nil {taken : Nat} (fits : Fifo.Fits ⟨taken, []⟩) :
    (ofFifo cell ⟨taken, []⟩).peek.run w = .error .notFound w := by
  simp only [peek, isEmpty_ofFifo fits, List.isEmpty_nil, if_true]
  rfl

theorem run_peek_cons {taken : Nat} {data : Bytes} {rest : List Bytes}
    (fits : Fifo.Fits ⟨taken, data :: rest⟩)
    (holds : Holds (w.entries cell) ⟨taken, data :: rest⟩) :
    (ofFifo cell ⟨taken, data :: rest⟩).peek.run w = .ok data w := by
  have stored := holds.item 0 (by simp)
  simp only [Nat.add_zero, List.getElem_cons_zero] at stored
  simp only [peek, isEmpty_ofFifo fits, List.isEmpty_cons, Bool.false_eq_true, if_false]
  simp only [ofFifo, Store.get, Store.storage, Storage.run_memory_get, stored]

/-- From an empty queue nothing is dropped. -/
theorem run_discard_nil {taken : Nat} (fits : Fifo.Fits ⟨taken, []⟩) :
    (ofFifo cell ⟨taken, []⟩).discard.run w = .error .notFound w := by
  simp only [discard, isEmpty_ofFifo fits, List.isEmpty_nil, if_true]
  rfl

/-- Dropping the oldest item succeeds, and the store holds the rest of the queue afterwards. -/
theorem run_discard_cons {taken : Nat} {data : Bytes} {rest : List Bytes}
    (fits : Fifo.Fits ⟨taken, data :: rest⟩)
    (holds : HoldsOnly (w.entries cell) ⟨taken, data :: rest⟩) :
    ∃ w', (ofFifo cell ⟨taken, data :: rest⟩).discard.run w =
        .ok (ofFifo cell ⟨taken + 1, rest⟩) w' ∧
      HoldsOnly (w'.entries cell) ⟨taken + 1, rest⟩ := by
  let item := Word.toBytes (UInt64.ofNat (taken + 1))
  let next := Word.toBytes (UInt64.ofNat (taken + 2))
  have latest : Fifo.latest ⟨taken, data :: rest⟩ = Fifo.latest ⟨taken + 1, rest⟩ := by
    simp only [Fifo.latest, List.length_cons]
    omega
  have advanced : UInt64.ofNat (taken + 1) + 1 = UInt64.ofNat (taken + 2) := by
    rw [UInt64.ofNat_add (taken + 1) 1]
    rfl
  refine ⟨(w.changeMemory cell (·.del item)).changeMemory cell (·.put oldestKey next), ?_, ?_⟩
  · simp only [discard, isEmpty_ofFifo fits, List.isEmpty_cons, Bool.false_eq_true, if_false]
    simp only [ofFifo, latest, advanced]
    rfl
  · simp only [World.entries_put, World.entries_del, if_true]
    exact holds.discard fits

/-- Taking the oldest item out of an empty queue fails as dropping it does. -/
theorem run_get_nil {taken : Nat} (fits : Fifo.Fits ⟨taken, []⟩) :
    (ofFifo cell ⟨taken, []⟩).get.run w = .error .notFound w := by
  simp only [StoredQueue.get, EStateM.run_bind, run_peek_nil fits]

theorem run_get_cons {taken : Nat} {data : Bytes} {rest : List Bytes}
    (fits : Fifo.Fits ⟨taken, data :: rest⟩)
    (holds : HoldsOnly (w.entries cell) ⟨taken, data :: rest⟩) :
    ∃ w', (ofFifo cell ⟨taken, data :: rest⟩).get.run w =
        .ok (data, ofFifo cell ⟨taken + 1, rest⟩) w' ∧
      HoldsOnly (w'.entries cell) ⟨taken + 1, rest⟩ := by
  obtain ⟨w', discarded, held⟩ := run_discard_cons fits holds
  refine ⟨w', ?_, held⟩
  simp only [StoredQueue.get, EStateM.run_bind, run_peek_cons fits holds.toHolds, discarded,
    EStateM.run_pure]

end StoredQueue

theorem toNat_succ {word : UInt64} (notWrapped : word + 1 ≠ 0) :
    (word + 1).toNat = word.toNat + 1 := by
  have below := word.toNat_lt
  rw [Ne, ← UInt64.toNat_inj, UInt64.toNat_add] at notWrapped
  rw [UInt64.toNat_add]
  simp at notWrapped ⊢
  omega

namespace QueueWalk

/-- How many items a walk can still show. -/
def remaining (it : QueueWalk) : Nat :=
  if it.next = 0 then 0 else it.last.toNat + 1 - it.next.toNat

/-- A walk that showed something has less to show. -/
theorem remaining_lt {it rest : QueueWalk} {shown : Except Error (UInt64 × Bytes)} {w w' : World}
    (h : it.step.run w = .ok (some shown, rest) w') : rest.remaining < it.remaining := by
  by_cases ended : it.next = 0 ∨ it.last < it.next
  · simp only [step, if_pos ended, EStateM.run_pure, EStateM.Result.ok.injEq, Prod.mk.injEq,
      reduceCtorEq, false_and] at h
  · obtain ⟨running, inside⟩ := not_or.1 ended
    have positive : 0 < it.remaining := by
      rw [UInt64.lt_iff_toNat_lt] at inside
      rw [remaining, if_neg running]
      omega
    simp only [step, if_neg ended] at h
    rw [run_bind_eq_ok_iff] at h
    obtain ⟨outcome, w₁, read, shows⟩ := h
    cases outcome with
    | error e =>
      simp only [EStateM.run_pure, EStateM.Result.ok.injEq, Prod.mk.injEq] at shows
      rw [← shows.1.2]
      exact positive
    | ok data =>
      simp only [EStateM.run_pure, EStateM.Result.ok.injEq, Prod.mk.injEq] at shows
      rw [← shows.1.2]
      simp only [remaining, if_neg running] at positive ⊢
      split
      · exact positive
      · rename_i notWrapped
        have next : (it.next + 1).toNat = it.next.toNat + 1 := toNat_succ notWrapped
        omega

/-- Outside of its range a walk shows nothing. -/
theorem run_step_over {it : QueueWalk} (ended : it.next = 0 ∨ it.last < it.next) (w : World) :
    it.step.run w = .ok (none, it) w := by
  simp only [step, if_pos ended, EStateM.run_pure]

/-- Inside of its range a walk shows what is stored under the number, and ends where nothing is. -/
theorem run_step_inside {cell : Ref .memory} {last : UInt64} {number : Nat} (positive : 0 < number)
    (inside : number ≤ last.toNat) (w : World) :
    (step ⟨.memory cell, UInt64.ofNat number, last⟩).run w =
      .ok (match (w.entries cell).get? (Word.toBytes (UInt64.ofNat number)) with
        | some data => (some (.ok (UInt64.ofNat number, data)),
            ⟨.memory cell, UInt64.ofNat (number + 1), last⟩)
        | none => (none, ⟨.memory cell, 0, last⟩)) w := by
  have same : (UInt64.ofNat number).toNat = number :=
    UInt64.toNat_ofNat_of_lt' (Nat.lt_of_le_of_lt inside last.toNat_lt)
  have running : ¬ (UInt64.ofNat number = 0 ∨ last < UInt64.ofNat number) := by
    rw [UInt64.lt_iff_toNat_lt, ← UInt64.toNat_inj, same, UInt64.toNat_zero]
    omega
  have next : UInt64.ofNat number + 1 = UInt64.ofNat (number + 1) := by
    rw [UInt64.ofNat_add number 1]
    rfl
  simp only [step, if_neg running, Store.get, Store.storage, EStateM.run_bind, run_attempt,
    Storage.run_memory_get]
  cases (w.entries cell).get? (Word.toBytes (UInt64.ofNat number)) with
  | some data => simp only [EStateM.run_pure, next]
  | none => rfl

/-- Everything that a walk shows until it ends. -/
def all (it : QueueWalk) : StoreM (List (Except Error (UInt64 × Bytes))) := fun w =>
  match _h : it.step.run w with
  | .ok (none, _) w' => .ok [] w'
  | .ok (some shown, rest) w' =>
    match rest.all w' with
    | .ok later w'' => .ok (shown :: later) w''
    | .error e w'' => .error e w''
  | .error e w' => .error e w'
termination_by it.remaining
decreasing_by exact remaining_lt _h

theorem run_all_of_end {it rest : QueueWalk} {w w' : World}
    (h : it.step.run w = .ok (none, rest) w') : it.all.run w = .ok [] w' := by
  rw [EStateM.run, all]
  split <;> simp_all

theorem run_all_of_shown {it rest : QueueWalk} {shown : Except Error (UInt64 × Bytes)}
    {later : List (Except Error (UInt64 × Bytes))} {w w' w'' : World}
    (h : it.step.run w = .ok (some shown, rest) w') (hlater : rest.all.run w' = .ok later w'') :
    it.all.run w = .ok (shown :: later) w'' := by
  rw [EStateM.run] at hlater
  rw [EStateM.run, all]
  split <;> simp_all

/-- A walk over stored items of consecutive numbers shows each of them under its number. -/
theorem run_all {cell : Ref .memory} {w : World} {last : UInt64} (items : List Bytes) (first : Nat)
    (positive : 0 < first) (ends : first + items.length = last.toNat + 1)
    (fits : last.toNat + 1 < UInt64.size)
    (stored : ∀ i (inside : i < items.length),
      (w.entries cell).get? (Word.toBytes (UInt64.ofNat (first + i))) = some items[i]) :
    (all ⟨.memory cell, UInt64.ofNat first, last⟩).run w =
      .ok ((items.zipIdx first).map fun (data, n) => .ok (UInt64.ofNat n, data)) w := by
  have number : (UInt64.ofNat first).toNat = first := UInt64.toNat_ofNat_of_lt' (by omega)
  induction items generalizing first with
  | nil =>
    have ended : UInt64.ofNat first = 0 ∨ last < UInt64.ofNat first := by
      right
      rw [UInt64.lt_iff_toNat_lt, number]
      simp only [List.length_nil] at ends
      omega
    exact run_all_of_end (run_step_over ended w)
  | cons data rest ih =>
    have head := stored 0 (by simp)
    simp only [Nat.add_zero, List.getElem_cons_zero] at head
    simp only [List.zipIdx_cons, List.map_cons]
    have shows : (step ⟨.memory cell, UInt64.ofNat first, last⟩).run w =
        .ok (some (.ok (UInt64.ofNat first, data)), ⟨.memory cell, UInt64.ofNat (first + 1), last⟩)
          w := by
      simp only [List.length_cons] at ends
      rw [run_step_inside positive (by omega), head]
    simp only [List.length_cons] at ends
    refine run_all_of_shown shows (ih (first + 1) (by omega) (by omega) (fun i inside => ?_)
      (UInt64.toNat_ofNat_of_lt' (by omega)))
    have tail := stored (i + 1) (by simp only [List.length_cons]; omega)
    simp only [List.getElem_cons_succ] at tail
    rw [show first + 1 + i = first + (i + 1) by omega]
    exact tail

end QueueWalk

end StoreGraph
