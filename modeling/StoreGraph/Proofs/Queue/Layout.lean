import StoreGraph.Proofs.Memory
import StoreGraph.Queue.Stored

/-! # How a store holds a queue

The abstract queue is a list of items together with the number of items that were taken before
them (`Fifo`). `Holds` says that the entries of a store represent one: the two sentinels carry the
ends of its range of sequence numbers, and every item stands under its own number. Opening a store
that holds a queue finds exactly this queue (`run_openOn`). A store that no one else writes to
holds nothing more under the numbers of the items that were taken (`HoldsOnly`).
-/

namespace StoreGraph

/-- A first-in, first-out queue as a list, with the number of items that have left it. -/
structure Fifo where
  /-- How many items were taken out so far. -/
  taken : Nat := 0
  /-- The items, the oldest one first. -/
  items : List Bytes := []
  deriving Repr, DecidableEq

namespace Fifo

/-- How many items were ever put in; the item put in last has this number. -/
def latest (f : Fifo) : Nat := f.taken + f.items.length

/-- The numbers of the queue still fit a word, and so does the one after them. -/
def Fits (f : Fifo) : Prop := f.latest < UInt64.size - 1

/-- Append an item. -/
def put (f : Fifo) (data : Bytes) : Fifo := { f with items := f.items ++ [data] }

theorem latest_put (f : Fifo) (data : Bytes) : (f.put data).latest = f.latest + 1 := by
  simp only [latest, put, List.length_append, List.length_singleton]
  omega

end Fifo

/-- Words that are written from different numbers have different bytes. -/
theorem toBytes_ofNat_ne {m n : Nat} (hm : m < UInt64.size) (hn : n < UInt64.size) (h : m ≠ n) :
    Word.toBytes (UInt64.ofNat m) ≠ Word.toBytes (UInt64.ofNat n) := by
  intro same
  have words := congrArg UInt64.toNat (Word.toBytes_injective same)
  rw [UInt64.toNat_ofNat_of_lt' hm, UInt64.toNat_ofNat_of_lt' hn] at words
  exact h words

theorem max_one_of_le {word : UInt64} (h : 1 ≤ word) : max word 1 = word := by
  change (if word ≤ 1 then 1 else word) = word
  split
  · rename_i below
    exact UInt64.le_antisymm h below
  · rfl

namespace StoredQueue

/-- The keys of items have eight bytes, those of the sentinels six. -/
theorem toBytes_ne_oldestKey (word : UInt64) : Word.toBytes word ≠ oldestKey := by
  intro same
  have lengths := congrArg List.length same
  rw [Word.length_toBytes, show oldestKey.length = 6 by decide] at lengths
  omega

theorem toBytes_ne_latestKey (word : UInt64) : Word.toBytes word ≠ latestKey := by
  intro same
  have lengths := congrArg List.length same
  rw [Word.length_toBytes, show latestKey.length = 6 by decide] at lengths
  omega

theorem latestKey_ne_oldestKey : latestKey ≠ oldestKey := by decide

/-- The number that entries hold under a key: zero if nothing is there, and none at all if what is
    there is not a number. -/
def sentinel (entries : SortedMap Bytes Bytes) (key : Bytes) : Option UInt64 :=
  match entries.get? key with
  | none => some 0
  | some raw => Word.ofBytes? raw

theorem sentinel_insert_self (entries : SortedMap Bytes Bytes) (key : Bytes) (word : UInt64) :
    sentinel (entries.insert key (Word.toBytes word)) key = some word := by
  simp only [sentinel, SortedMap.get?_insert_self, Word.ofBytes?_toBytes]

theorem sentinel_insert_of_ne (entries : SortedMap Bytes Bytes) {key key' : Bytes}
    (different : key' ≠ key) (value : Bytes) :
    sentinel (entries.insert key value) key' = sentinel entries key' := by
  simp only [sentinel, SortedMap.get?_insert_of_ne entries different]

theorem sentinel_erase_of_ne (entries : SortedMap Bytes Bytes) {key key' : Bytes}
    (different : key' ≠ key) : sentinel (entries.erase key) key' = sentinel entries key' := by
  simp only [sentinel, SortedMap.get?_erase_of_ne entries different]

theorem run_readSequence {cell : Ref .memory} {key : Bytes} {w : World} {word : UInt64}
    (h : sentinel (w.entries cell) key = some word) :
    (readSequence (.memory cell) key).run w = .ok word w := by
  simp only [readSequence, Store.find?, Store.storage, EStateM.run_bind, Storage.run_memory_find]
  simp only [sentinel] at h
  cases held : (w.entries cell).get? key with
  | none =>
    rw [held] at h
    cases h
    rfl
  | some raw =>
    rw [held] at h
    simp only [h]
    rfl

/-- The entries of a store represent a queue. -/
structure Holds (entries : SortedMap Bytes Bytes) (f : Fifo) : Prop where
  /-- The number of the oldest item is stored, or nothing is, which means one. -/
  oldest : ∃ word, sentinel entries oldestKey = some word ∧ max word 1 = UInt64.ofNat (f.taken + 1)
  /-- The number used last is stored, or nothing is, which means none. -/
  latest : sentinel entries latestKey = some (UInt64.ofNat f.latest)
  /-- Every item is stored under its number. -/
  item : ∀ i (inside : i < f.items.length),
    entries.get? (Word.toBytes (UInt64.ofNat (f.taken + 1 + i))) = some f.items[i]

/-- A store without entries holds the queue that was never used. -/
theorem holds_empty : Holds .empty {} where
  oldest := ⟨0, rfl, by decide⟩
  latest := rfl
  item i inside := absurd inside (Nat.not_lt_zero i)

/-- The entries of a store represent a queue, and nothing is left of the items that were taken. -/
structure HoldsOnly (entries : SortedMap Bytes Bytes) (f : Fifo) : Prop
    extends Holds entries f where
  gone : ∀ number, 0 < number → number ≤ f.taken →
    entries.get? (Word.toBytes (UInt64.ofNat number)) = none

theorem holdsOnly_empty : HoldsOnly .empty {} where
  toHolds := holds_empty
  gone _ positive before := absurd positive (Nat.not_lt.2 before)

/-- The live queue over a memory cell that is in the state of an abstract one. -/
def ofFifo (cell : Ref .memory) (f : Fifo) : StoredQueue :=
  ⟨.memory cell, ⟨UInt64.ofNat (f.taken + 1), UInt64.ofNat f.latest⟩⟩

variable {f : Fifo}

/-- The entries that a write leaves represent the longer queue. -/
theorem Holds.put {entries : SortedMap Bytes Bytes} (holds : Holds entries f) (data : Bytes)
    (fits : (f.put data).Fits) :
    Holds ((entries.insert (Word.toBytes (UInt64.ofNat (f.put data).latest)) data).insert latestKey
      (Word.toBytes (UInt64.ofNat (f.put data).latest))) (f.put data) where
  oldest := by
    obtain ⟨word, stored, oldest⟩ := holds.oldest
    refine ⟨word, ?_, oldest⟩
    rw [sentinel_insert_of_ne _ latestKey_ne_oldestKey.symm,
      sentinel_insert_of_ne _ (toBytes_ne_oldestKey _).symm, stored]
  latest := sentinel_insert_self _ _ _
  item i inside := by
    rw [SortedMap.get?_insert_of_ne _ (toBytes_ne_latestKey _)]
    have number : (f.put data).latest = f.taken + 1 + f.items.length := by
      rw [Fifo.latest_put, Fifo.latest]
      omega
    rw [Fifo.Fits, number] at fits
    rw [number]
    simp only [Fifo.put, List.length_append, List.length_singleton] at inside ⊢
    by_cases last : i = f.items.length
    · subst last
      simp only [SortedMap.get?_insert_self, List.getElem_concat_length]
    · have before : i < f.items.length := by omega
      rw [SortedMap.get?_insert_of_ne _ (toBytes_ofNat_ne (by omega) (by omega) (by omega)),
        holds.item i before, List.getElem_append_left before]

theorem HoldsOnly.put {entries : SortedMap Bytes Bytes} (holds : HoldsOnly entries f)
    (data : Bytes) (fits : (f.put data).Fits) :
    HoldsOnly ((entries.insert (Word.toBytes (UInt64.ofNat (f.put data).latest)) data).insert
      latestKey (Word.toBytes (UInt64.ofNat (f.put data).latest))) (f.put data) where
  toHolds := holds.toHolds.put data fits
  gone number positive taken := by
    have below : number < (f.put data).latest := by
      rw [Fifo.latest_put, Fifo.latest]
      simp only [Fifo.put] at taken
      omega
    rw [Fifo.Fits] at fits
    rw [SortedMap.get?_insert_of_ne _ (toBytes_ne_latestKey _),
      SortedMap.get?_insert_of_ne _ (toBytes_ofNat_ne (by omega) (by omega) (by omega))]
    exact holds.gone number positive taken

/-- Without its oldest item, a queue is represented by what remains when the item is deleted and
    the sentinel of the oldest number advanced. -/
theorem Holds.discard {entries : SortedMap Bytes Bytes} {taken : Nat} {data : Bytes}
    {rest : List Bytes} (holds : Holds entries ⟨taken, data :: rest⟩)
    (fits : Fifo.Fits ⟨taken, data :: rest⟩) :
    Holds ((entries.erase (Word.toBytes (UInt64.ofNat (taken + 1)))).insert oldestKey
      (Word.toBytes (UInt64.ofNat (taken + 2)))) ⟨taken + 1, rest⟩ where
  oldest := by
    simp only [Fifo.Fits, Fifo.latest, List.length_cons] at fits
    refine ⟨_, sentinel_insert_self _ _ _, ?_⟩
    apply max_one_of_le
    rw [UInt64.le_iff_toNat_le, UInt64.toNat_ofNat_of_lt' (by omega), UInt64.toNat_one]
    omega
  latest := by
    rw [sentinel_insert_of_ne _ latestKey_ne_oldestKey,
      sentinel_erase_of_ne _ (toBytes_ne_latestKey _).symm, holds.latest]
    simp only [Fifo.latest, List.length_cons]
    congr 2
    omega
  item i inside := by
    simp only [Fifo.Fits, Fifo.latest, List.length_cons] at fits
    simp only at inside
    have stored := holds.item (i + 1) (by simp only [List.length_cons]; omega)
    simp only [List.getElem_cons_succ, show taken + 1 + (i + 1) = taken + 1 + 1 + i by omega]
      at stored
    simp only
    rw [SortedMap.get?_insert_of_ne _ (toBytes_ne_oldestKey _),
      SortedMap.get?_erase_of_ne _ (toBytes_ofNat_ne (by omega) (by omega) (by omega)), stored]

theorem HoldsOnly.discard {entries : SortedMap Bytes Bytes} {taken : Nat} {data : Bytes}
    {rest : List Bytes} (holds : HoldsOnly entries ⟨taken, data :: rest⟩)
    (fits : Fifo.Fits ⟨taken, data :: rest⟩) :
    HoldsOnly ((entries.erase (Word.toBytes (UInt64.ofNat (taken + 1)))).insert oldestKey
      (Word.toBytes (UInt64.ofNat (taken + 2)))) ⟨taken + 1, rest⟩ where
  toHolds := holds.toHolds.discard fits
  gone number positive dropped := by
    simp only [Fifo.Fits, Fifo.latest, List.length_cons] at fits
    simp only at dropped
    rw [SortedMap.get?_insert_of_ne _ (toBytes_ne_oldestKey _)]
    rcases Nat.eq_or_lt_of_le dropped with rfl | earlier
    · exact SortedMap.get?_erase_self _ _
    · rw [SortedMap.get?_erase_of_ne _ (toBytes_ofNat_ne (by omega) (by omega) (by omega))]
      exact holds.gone number positive (Nat.le_of_lt_succ earlier)

end StoredQueue

end StoreGraph
