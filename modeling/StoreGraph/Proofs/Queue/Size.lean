import Mathlib.Order.Interval.Finset.Nat
import StoreGraph.Proofs.Queue.Trimming

/-! # The size of a queue

The size of a queue is the number of sequence numbers from that of the oldest item to that of the
last one, as long as the number behind the last one is a word. Once the last word is in use the size
is one short (`size_counts_up_to_last`): a queue that holds a single item under the last word says
that its size is zero and that it is not empty (`last_item_not_counted`), and a bounded queue keeps
one item more than its limit.
-/

namespace StoreGraph

/-- The last word, behind which there is no sequence number. -/
def lastWord : UInt64 := 0xFFFFFFFFFFFFFFFF

theorem toNat_lastWord : lastWord.toNat = UInt64.size - 1 := rfl

theorem toNat_lt_of_ne_lastWord {word : UInt64} (h : word ≠ lastWord) :
    word.toNat < UInt64.size - 1 := by
  have small := word.toNat_lt
  have different : word.toNat ≠ lastWord.toNat := fun same => h (UInt64.toNat_inj.mp same)
  simp only [toNat_lastWord, UInt64.size] at *
  omega

namespace SequenceRange

/-- The sequence numbers from the oldest to the latest. -/
def inUse (r : SequenceRange) : Finset Nat := Finset.Icc r.oldest.toNat r.latest.toNat

/-- How many of the numbers in use the size leaves out. -/
def uncounted (r : SequenceRange) : Nat := if r.latest = lastWord then 1 else 0

variable {r : SequenceRange}

theorem card_inUse (r : SequenceRange) :
    r.inUse.card = r.latest.toNat + 1 - r.oldest.toNat := by
  simp [inUse]

theorem size_add_uncounted (r : SequenceRange) : r.size.toNat + r.uncounted = r.inUse.card := by
  have small := r.oldest.toNat_lt
  rw [toNat_size, card_inUse]
  unfold uncounted
  split
  · rename_i last
    simp only [last, toNat_lastWord, UInt64.size] at *
    omega
  · rename_i inside
    have below := toNat_lt_of_ne_lastWord inside
    simp only [UInt64.size] at *
    omega

theorem card_inUse_lt (positive : 0 < r.oldest.toNat) : r.inUse.card < UInt64.size := by
  have small := r.latest.toNat_lt
  simp only [card_inUse, UInt64.size]
  omega

theorem isEmpty_iff (positive : 0 < r.oldest.toNat) : r.isEmpty = true ↔ r.inUse = ∅ := by
  simp only [isEmpty, inUse, Bool.or_eq_true, beq_iff_eq, decide_eq_true_eq,
    Finset.Icc_eq_empty_iff, ← UInt64.toNat_inj, UInt64.lt_iff_toNat_lt, UInt64.toNat_zero]
  omega

theorem size_eq_zero_iff (positive : 0 < r.oldest.toNat) :
    r.size = 0 ↔ r.isEmpty = true ∨ r.oldest = lastWord ∧ r.latest = lastWord := by
  have counted := size_add_uncounted r
  have small := r.oldest.toNat_lt
  rw [isEmpty_iff positive, ← Finset.card_eq_zero, ← counted]
  simp only [← UInt64.toNat_inj, UInt64.toNat_zero]
  rw [card_inUse] at counted
  unfold uncounted at *
  split at counted
  · rename_i last
    simp only [last, toNat_lastWord, UInt64.size] at *
    simp
    omega
  · rename_i inside
    have below := toNat_lt_of_ne_lastWord inside
    simp only [toNat_lastWord, if_neg inside]
    omega

end SequenceRange

namespace StoredQueue

/-- The states of the queues over a store: a queue is opened, and items are put and taken. What an
    operation that fails does to the world is not bounded, nor what happens in between. Taking an
    item is left out where the number of the next one is not a word. -/
inductive Reached (store : Store) : StoredQueue → Prop where
  | opened {q w w'} (run : (openOn store).run w = .ok q w') : Reached store q
  | put {q q' w w'} (data : Bytes) (before : Reached store q)
      (run : (q.put data).run w = .ok q' w') : Reached store q'
  | discard {q q' w w'} (before : Reached store q) (inside : q.range.oldest ≠ lastWord)
      (run : q.discard.run w = .ok q' w') : Reached store q'
  | get {q q' w w' data} (before : Reached store q) (inside : q.range.oldest ≠ lastWord)
      (run : q.get.run w = .ok (data, q') w') : Reached store q'

variable {store : Store} {q q' : StoredQueue} {w w' : World} {data : Bytes}

theorem positive_of_open (run : (openOn store).run w = .ok q w') : 0 < q.range.oldest.toNat := by
  obtain ⟨oldest, w₁, -, run⟩ := run_bind_eq_ok_iff.mp run
  obtain ⟨latest, w₂, -, run⟩ := run_bind_eq_ok_iff.mp run
  have least : 0 < (max oldest 1).toNat := by
    have below : (1 : UInt64) ≤ max oldest 1 := by
      change 1 ≤ if oldest ≤ 1 then 1 else oldest
      split
      · exact UInt64.le_refl 1
      · rename_i above
        exact UInt64.le_of_lt (UInt64.not_le.mp above)
    exact UInt64.le_iff_toNat_le.mp below
  dsimp only at run
  split at run
  · cases run
  · cases run
    exact least

/-- Appending an item only advances the number of the last one. -/
theorem range_of_put (run : (q.put data).run w = .ok q' w') :
    q' = { q with range := { q.range with latest := q.range.latest + 1 } } := by
  unfold put at run
  split at run
  · cases run
  · obtain ⟨-, w₁, -, run⟩ := run_bind_eq_ok_iff.mp run
    obtain ⟨-, w₂, -, run⟩ := run_bind_eq_ok_iff.mp run
    cases run
    rfl

/-- Taking the oldest item drops it. -/
theorem discard_of_get (run : q.get.run w = .ok (data, q') w') :
    ∃ w₁, q.discard.run w₁ = .ok q' w' := by
  obtain ⟨data', w₁, -, run⟩ := run_bind_eq_ok_iff.mp run
  obtain ⟨q₁, w₂, dropped, run⟩ := run_bind_eq_ok_iff.mp run
  cases run
  exact ⟨w₁, dropped⟩

theorem positive_of_discard (positive : 0 < q.range.oldest.toNat)
    (inside : q.range.oldest ≠ lastWord) (run : q.discard.run w = .ok q' w') :
    0 < q'.range.oldest.toNat := by
  have below := toNat_lt_of_ne_lastWord inside
  rw [range_of_discard run]
  simp only [UInt64.toNat_add, UInt64.toNat_one, UInt64.size] at *
  omega

/-- The oldest number is never zero. -/
theorem Reached.positive (reached : Reached store q) : 0 < q.range.oldest.toNat := by
  induction reached with
  | opened run => exact positive_of_open run
  | put data before run ih =>
    rw [range_of_put run]
    exact ih
  | discard before inside run ih => exact positive_of_discard ih inside run
  | get before inside run ih =>
    obtain ⟨w₁, dropped⟩ := discard_of_get run
    exact positive_of_discard ih inside dropped

end StoredQueue

namespace BoundedQueue

open StoredQueue

variable {store : Store} {limit : UInt64} {q q' : StoredQueue} {w w' : World} {met : Option Error}

/-- Where there are too many items, the oldest of them is not the last. -/
theorem inside_of_exceeds (exceeds : limit < q.size) : q.range.oldest ≠ lastWord := by
  intro last
  have large : limit.toNat < q.range.size.toNat := UInt64.lt_iff_toNat_lt.mp exceeds
  simp only [SequenceRange.toNat_size, last, toNat_lastWord, UInt64.size] at large
  omega

/-- Trimming leads to states that taking items leads to. -/
theorem Trims.reached (trims : Trims limit q w met q' w') (reached : Reached store q) :
    Reached store q' := by
  induction trims with
  | fits => exact reached
  | dropped exceeds run _ ih => exact ih (reached.discard (inside_of_exceeds exceeds) run)
  | failed => exact reached

/-- Trimming that meets no failure makes the size that of the limit, if it was larger. -/
theorem Trims.size_of_unfailing (trims : Trims limit q w met q' w') (unfailing : met = none) :
    q'.size.toNat = min q.size.toNat limit.toNat ∧ q'.range.latest = q.range.latest := by
  induction trims with
  | fits small =>
    have below := UInt64.le_iff_toNat_le.mp small
    exact ⟨(Nat.min_eq_left below).symm, rfl⟩
  | dropped exceeds run _ ih =>
    obtain ⟨size, latest⟩ := ih unfailing
    have above := UInt64.lt_iff_toNat_lt.mp exceeds
    have smaller := size_of_discard run (UInt64.lt_iff_toNat_lt.mpr (by
      simp only [UInt64.toNat_zero]
      omega))
    constructor
    · omega
    · rw [latest, range_of_discard run]
  | failed => cases unfailing

theorem Trims.card_of_unfailing (trims : Trims limit q w none q' w') :
    q'.range.inUse.card = min q.range.inUse.card (limit.toNat + q.range.uncounted) := by
  obtain ⟨size, latest⟩ := trims.size_of_unfailing rfl
  have before := q.range.size_add_uncounted
  have after := q'.range.size_add_uncounted
  have same : q'.range.uncounted = q.range.uncounted := by
    simp only [SequenceRange.uncounted, latest]
  unfold StoredQueue.size at size
  omega

end BoundedQueue

namespace StoredQueue

variable {store : Store} {q : StoredQueue}

/-- In every state of a queue, over whatever store and from whatever sentinels it was opened, the
    number of sequence numbers in use is a word. It is the size, and one more once the last word is
    in use. The queue is empty exactly if no number is in use; its size is zero then, and also if it
    holds the item of the last word alone. A put to a bounded queue leads to such a state again. If
    trimming meets no failure, it leaves no more items than the limit, and one more once the last
    word is in use. -/
theorem size_counts_up_to_last (reached : Reached store q) :
    q.range.inUse.card < UInt64.size ∧
      q.size.toNat + q.range.uncounted = q.range.inUse.card ∧
      (q.isEmpty = true ↔ q.range.inUse = ∅) ∧
      (q.size = 0 ↔ q.isEmpty = true ∨ q.range.oldest = lastWord ∧ q.range.latest = lastWord) ∧
      ∀ (limit : UInt64) {data w q₁ w₁}, (q.put data).run w = .ok q₁ w₁ → ∃ met q' w',
        BoundedQueue.Trims limit q₁ w₁ met q' w' ∧
        (BoundedQueue.put ⟨q, limit⟩ data).run w = .ok ⟨q', limit⟩ (w'.noteTrim limit q'.size met) ∧
        Reached store q' ∧
        (met = none → q'.range.inUse.card =
          min q₁.range.inUse.card (limit.toNat + q'.range.uncounted)) := by
  have positive := reached.positive
  refine ⟨SequenceRange.card_inUse_lt positive, q.range.size_add_uncounted,
    SequenceRange.isEmpty_iff positive, SequenceRange.size_eq_zero_iff positive, ?_⟩
  intro limit data w q₁ w₁ run
  obtain ⟨met, q', w', trims, ran⟩ := BoundedQueue.run_put_of_ok (q := ⟨q, limit⟩) run
  refine ⟨met, q', w', trims, ran, trims.reached (reached.put data run), ?_⟩
  rintro rfl
  have latest := (trims.size_of_unfailing rfl).2
  have same : q'.range.uncounted = q₁.range.uncounted := by
    simp only [SequenceRange.uncounted, latest]
  rw [same]
  exact trims.card_of_unfailing

/-- A store that holds a queue of one item, with the given sequence number. -/
def holding (number : UInt64) : World where
  randomness _ := 0
  memories :=
    { cells := SortedMap.empty.insert 0
        { entries := ((SortedMap.empty.insert oldestKey (Word.toBytes number)).insert latestKey
            (Word.toBytes number)).insert (Word.toBytes number) [7] } }

/-- The queue that is opened over this store. -/
def single (number : UInt64) : StoredQueue := ⟨.memory ⟨0⟩, ⟨number, number⟩⟩

/-- A queue holds one item, whose number is the last word. Its size is zero, and it is not empty. -/
theorem last_item_not_counted :
    (∃ w, (openOn (.memory ⟨0⟩)).run (holding lastWord) = .ok (single lastWord) w ∧
        (single lastWord).peek.run w = .ok [7] w) ∧
      (single lastWord).range.inUse.card = 1 ∧ (single lastWord).size = 0 ∧
      (single lastWord).isEmpty = false :=
  ⟨⟨_, rfl, rfl⟩, rfl, rfl, rfl⟩

/-- The put that uses the last word leaves two items in a queue that is bounded by one. -/
theorem size_counts_up_to_last_bounded :
    ∃ q w, (BoundedQueue.put ⟨single (lastWord - 1), 1⟩ [8]).run (holding (lastWord - 1)) =
        .ok ⟨q, 1⟩ w ∧ Reached (.memory ⟨0⟩) q ∧ q.size = 1 ∧ q.range.inUse.card = 2 := by
  have opened : Reached (.memory ⟨0⟩) (single (lastWord - 1)) :=
    .opened (w := holding (lastWord - 1)) rfl
  obtain ⟨-, -, -, -, put⟩ := size_counts_up_to_last opened
  obtain ⟨met, q, w, trims, ran, reached, -⟩ := put 1 (w := holding (lastWord - 1)) rfl
  obtain ⟨-, rfl, -⟩ := trims.unique (.fits (by decide))
  obtain ⟨-, counted, -⟩ := size_counts_up_to_last reached
  exact ⟨_, _, ran, reached, rfl, counted.symm⟩

end StoredQueue

end StoreGraph
