import StoreGraph.Proofs.Action
import StoreGraph.Queue.Bounded

/-! # Trimming

A queue is trimmed by dropping its oldest item for as long as there are too many, until one cannot
be dropped. `Trims` is this loop. It ends over every store and in every world, and `trim` is what it
does (`run_trim`): as every item that is dropped makes the queue smaller by one, it is known before
the first one how many have to be.
-/

namespace StoreGraph

theorem SequenceRange.toNat_size (r : SequenceRange) :
    r.size.toNat = min (r.latest.toNat + 1) (UInt64.size - 1) - r.oldest.toNat := by
  have small := r.latest.toNat_lt
  have after : (if r.latest = 0xFFFFFFFFFFFFFFFF then r.latest else r.latest + 1).toNat =
      min (r.latest.toNat + 1) (UInt64.size - 1) := by
    split
    · rename_i last
      rw [last]
      rfl
    · rename_i notLast
      rw [← UInt64.toNat_inj] at notLast
      rw [UInt64.toNat_add]
      simp only [UInt64.size, UInt64.reduceToNat] at *
      omega
  simp only [size, ← after]
  generalize (if r.latest = 0xFFFFFFFFFFFFFFFF then r.latest else r.latest + 1) = next
  split
  · rename_i below
    rw [UInt64.lt_iff_toNat_lt] at below
    exact (Nat.sub_eq_zero_of_le (Nat.le_of_lt below)).symm
  · rename_i inside
    exact UInt64.toNat_sub_of_le _ _ (UInt64.not_lt.mp inside)

/-- A range without its oldest number is smaller by one. -/
theorem SequenceRange.size_succ (r : SequenceRange) (some : 0 < r.size) :
    (SequenceRange.size { r with oldest := r.oldest + 1 }).toNat + 1 = r.size.toNat := by
  rw [UInt64.lt_iff_toNat_lt, toNat_size] at some
  rw [toNat_size, toNat_size, UInt64.toNat_add]
  simp only [UInt64.size, UInt64.reduceToNat] at *
  omega

namespace StoredQueue

variable {q q' : StoredQueue} {w w' : World}

/-- Dropping the oldest item only advances the number of the oldest one. -/
theorem range_of_discard (run : q.discard.run w = .ok q' w') :
    q' = { q with range := { q.range with oldest := q.range.oldest + 1 } } := by
  rw [discard] at run
  split at run
  · cases run
  · obtain ⟨-, w₁, -, run⟩ := run_bind_eq_ok_iff.mp run
    obtain ⟨-, w₂, -, run⟩ := run_bind_eq_ok_iff.mp run
    cases run
    rfl

theorem size_of_discard (run : q.discard.run w = .ok q' w') (some : 0 < q.size) :
    q'.size.toNat + 1 = q.size.toNat := by
  rw [range_of_discard run]
  exact q.range.size_succ some

end StoredQueue

/-- The world in which it was reported and counted that trimming met a failure, if it did. -/
def World.noteTrim (limit size : UInt64) (w : World) : Option Error → World
  | none => w
  | some e =>
    { w with
      events := w.events ++ [.trimFailed limit size e]
      counters := { w.counters with trimFailures := w.counters.trimFailures + 1 } }

namespace BoundedQueue

/-- While there are more items than the limit, the oldest one is dropped. The loop leaves a queue
    and a world behind, and stops early at the failure that it met, if it met one. -/
inductive Trims (limit : UInt64) :
    StoredQueue → World → Option Error → StoredQueue → World → Prop where
  | fits {q w} (small : q.size ≤ limit) : Trims limit q w none q w
  | dropped {q w q₁ w₁ met q' w'} (exceeds : limit < q.size) (run : q.discard.run w = .ok q₁ w₁)
      (rest : Trims limit q₁ w₁ met q' w') : Trims limit q w met q' w'
  | failed {q w e w'} (exceeds : limit < q.size) (run : q.discard.run w = .error e w') :
      Trims limit q w (some e) q w'

variable {limit : UInt64} {q q₁ q₂ : StoredQueue} {w w₁ w₂ : World} {met met' : Option Error}

/-- The loop can go only one way. -/
theorem Trims.unique (first : Trims limit q w met q₁ w₁) (second : Trims limit q w met' q₂ w₂) :
    met = met' ∧ q₁ = q₂ ∧ w₁ = w₂ := by
  induction first with
  | fits small =>
    cases second with
    | fits => exact ⟨rfl, rfl, rfl⟩
    | dropped exceeds | failed exceeds => exact absurd exceeds (UInt64.not_lt.mpr small)
  | dropped exceeds run _ ih =>
    cases second with
    | fits small => exact absurd exceeds (UInt64.not_lt.mpr small)
    | dropped _ run' rest =>
      cases run.symm.trans run'
      exact ih rest
    | failed _ run' => cases run.symm.trans run'
  | failed exceeds run =>
    cases second with
    | fits small => exact absurd exceeds (UInt64.not_lt.mpr small)
    | dropped _ run' => cases run.symm.trans run'
    | failed _ run' =>
      cases run.symm.trans run'
      exact ⟨rfl, rfl, rfl⟩

/-- Dropping as many items as there are too many is the loop, which therefore ends. -/
theorem run_dropOldest (limit : UInt64) {n : Nat} (exceeds : n = q.size.toNat - limit.toNat)
    (w : World) : ∃ met q' w', Trims limit q w met q' w' ∧
      (dropOldest limit n q).run w = .ok q' (w'.noteTrim limit q'.size met) := by
  induction n generalizing q w with
  | zero =>
    have small : q.size ≤ limit := UInt64.le_iff_toNat_le.mpr (by omega)
    exact ⟨none, q, w, .fits small, rfl⟩
  | succ n ih =>
    have more : limit < q.size := UInt64.lt_iff_toNat_lt.mpr (by omega)
    simp only [dropOldest, EStateM.run_bind, run_attempt]
    cases run : q.discard.run w with
    | error e w₁ => exact ⟨some e, q, w₁, .failed more run, rfl⟩
    | ok q₁ w₁ =>
      have some : 0 < q.size := UInt64.lt_iff_toNat_lt.mpr (by
        rw [UInt64.toNat_zero]
        omega)
      have smaller := StoredQueue.size_of_discard run some
      obtain ⟨met, q', w', trims, ran⟩ := ih (q := q₁) (by omega) w₁
      exact ⟨met, q', w', .dropped more run trims, ran⟩

theorem toNat_available (q : BoundedQueue) :
    q.available.toNat = q.limit.toNat - q.size.toNat := by
  rw [available]
  split
  · rename_i exceeds
    rw [UInt64.lt_iff_toNat_lt] at exceeds
    exact (Nat.sub_eq_zero_of_le (Nat.le_of_lt exceeds)).symm
  · rename_i within
    exact UInt64.toNat_sub_of_le _ _ (UInt64.not_lt.mp within)

/-- Trimming ends, over every store, and never fails: a failure that it meets is only reported and
    counted. -/
theorem run_trim (q : BoundedQueue) (w : World) : ∃ met q' w', Trims q.limit q.queue w met q' w' ∧
    q.trim.run w = .ok { q with queue := q' } (w'.noteTrim q.limit q'.size met) := by
  obtain ⟨met, q', w', trims, ran⟩ := run_dropOldest q.limit (q := q.queue) rfl w
  refine ⟨met, q', w', trims, ?_⟩
  rw [trim, EStateM.run_bind, size, ran]
  rfl

/-- A put does what the put of the queue below does, and trims what that leaves. -/
theorem run_put_of_ok {q : BoundedQueue} {data : Bytes}
    (run : (q.queue.put data).run w = .ok q₁ w₁) :
    ∃ met q' w', Trims q.limit q₁ w₁ met q' w' ∧
      (q.put data).run w = .ok { q with queue := q' } (w'.noteTrim q.limit q'.size met) := by
  obtain ⟨met, q', w', trims, ran⟩ := run_trim { q with queue := q₁ } w₁
  refine ⟨met, q', w', trims, ?_⟩
  rw [put, EStateM.run_bind, run]
  exact ran

theorem run_put_of_error {q : BoundedQueue} {data : Bytes} {e : Error}
    (run : (q.queue.put data).run w = .error e w₁) : (q.put data).run w = .error e w₁ := by
  rw [put, EStateM.run_bind, run]

end BoundedQueue

end StoreGraph
