import Mathlib.Data.List.Sort
import StoreGraph.Dedup

/-! # Ages of stored keys

The markers of a store alone decide the age of every key in it: `aged` lists the stored keys from
the oldest to the newest, each with its sequence number. The ages that a naive dedup holds beside
its store repeat what the markers say (`Tracks`), and both change alike: a key that is stored with a
new number moves to the end of the list, and deleting the oldest key takes the first one off.
-/

namespace StoreGraph

open KeyOrder

section Sorted

variable {κ ν : Type} [KeyOrder κ]

/-- Two lists in strict order that have the same members are equal. -/
theorem eq_of_sorted {l₁ l₂ : List κ} (h₁ : l₁.Pairwise fun a b => before a b = true)
    (h₂ : l₂.Pairwise fun a b => before a b = true) (same : ∀ a, a ∈ l₁ ↔ a ∈ l₂) : l₁ = l₂ := by
  have antisymm : Std.Antisymm fun a b : κ => before a b = true :=
    ⟨fun a b first second => by simp [before_asymm first] at second⟩
  have irrefl : Std.Irrefl fun a b : κ => before a b = true :=
    ⟨fun a self => by simp [before_self] at self⟩
  exact List.Pairwise.eq_of_mem_iff h₁ h₂ same

/-- What does not come after a key cannot come after a key behind it. -/
theorem not_before_trans {a b c : κ} (first : before b a = false) (second : before c b = false) :
    before c a = false := by
  cases wrong : before c a with
  | false => rfl
  | true =>
    cases ahead : before a b with
    | true => exact absurd (before_trans wrong ahead) (by simp [second])
    | false =>
      rw [eq_of_not_before ahead first] at wrong
      exact absurd wrong (by simp [second])

/-- Sorting puts keys that are listed once in strict order. -/
theorem mergeSort_sorted {l : List κ} (distinct : l.Nodup) :
    (l.mergeSort fun a b => !before b a).Pairwise fun a b => before a b = true := by
  have ordered : (l.mergeSort fun a b => !before b a).Pairwise fun a b => (!before b a) = true := by
    apply List.pairwise_mergeSort
    · intro a b c first second
      simp only [Bool.not_eq_true'] at first second ⊢
      exact not_before_trans first second
    · intro a b
      cases first : before b a with
      | false => rfl
      | true => simp [before_asymm first]
  have distinct' := (List.mergeSort_perm l fun a b => !before b a).nodup_iff.2 distinct
  refine (ordered.and distinct').imp fun ⟨notAfter, different⟩ => ?_
  rw [Bool.not_eq_true'] at notAfter
  exact Bool.eq_true_of_not_eq_false fun notBefore =>
    different (eq_of_not_before notBefore notAfter)

namespace SortedMap

theorem mem_keys_iff_get? {m : SortedMap κ ν} {key : κ} :
    key ∈ m.keys ↔ ∃ value, m.get? key = some value := by
  rw [mem_keys_iff, contains, Option.isSome_iff_exists]

theorem mem_keys_insert [DecidableEq κ] {m : SortedMap κ ν} {key key' : κ} {value : ν} :
    key' ∈ (m.insert key value).keys ↔ key' = key ∨ key' ∈ m.keys := by
  simp only [mem_keys_iff_get?, get?_insert]
  by_cases same : key' = key
  · simp [same]
  · simp [same]

theorem mem_keys_erase [DecidableEq κ] {m : SortedMap κ ν} {key key' : κ} :
    key' ∈ (m.erase key).keys ↔ key' ≠ key ∧ key' ∈ m.keys := by
  simp only [mem_keys_iff_get?, get?_erase]
  by_cases same : key' = key
  · simp [same]
  · simp [same]

end SortedMap

end Sorted

/-! ## The order of ages -/

/-- The stored keys with the sequence numbers of their markers, the oldest one first. Of keys with
    one number, the lesser one counts as the older. -/
def aged (entries : SortedMap Bytes Bytes) : List (UInt64 × Bytes) :=
  (entries.entries.map fun e => (markerSequence e.2, e.1)).mergeSort fun a b => !before b a

/-- The greatest sequence number of a marker; zero if nothing is stored. -/
def newest (entries : SortedMap Bytes Bytes) : Nat :=
  (entries.entries.map fun e => (markerSequence e.2).toNat).foldr max 0

variable {entries : SortedMap Bytes Bytes} {ages : KeyAges} {sequence : UInt64} {key : Bytes}

theorem mem_aged :
    (sequence, key) ∈ aged entries ↔ (entries.get? key).map markerSequence = some sequence := by
  simp only [aged, List.mem_mergeSort, List.mem_map, Prod.exists, Prod.mk.injEq,
    SortedMap.mem_entries_iff, Option.map_eq_some_iff]
  constructor
  · rintro ⟨_, marker, stored, same, rfl⟩
    exact ⟨marker, stored, same⟩
  · rintro ⟨marker, stored, same⟩
    exact ⟨key, marker, stored, same, rfl⟩

theorem aged_sorted (entries : SortedMap Bytes Bytes) :
    (aged entries).Pairwise fun a b => before a b = true := by
  refine mergeSort_sorted (List.Nodup.of_map (·.2) ?_)
  rw [List.map_map]
  exact entries.keys_nodup

/-- Any list in strict order with the right members is the list of ages. -/
theorem aged_eq {l : List (UInt64 × Bytes)} (sorted : l.Pairwise fun a b => before a b = true)
    (members : ∀ sequence key, (sequence, key) ∈ l ↔
      (entries.get? key).map markerSequence = some sequence) : aged entries = l :=
  eq_of_sorted (aged_sorted entries) sorted fun (sequence, key) => by
    rw [mem_aged, members]

theorem newest_le_iff {n : Nat} : newest entries ≤ n ↔
    ∀ sequence key, (sequence, key) ∈ aged entries → sequence.toNat ≤ n := by
  have fold : ∀ l : List Nat, l.foldr max 0 ≤ n ↔ ∀ m ∈ l, m ≤ n := by
    intro l
    induction l with
    | nil => simp
    | cons m l ih => simp [ih]
  simp only [newest, fold, List.mem_map, mem_aged, Option.map_eq_some_iff]
  constructor
  · rintro below sequence key ⟨marker, stored, rfl⟩
    exact below _ ⟨(key, marker), entries.mem_entries_iff.mpr stored, rfl⟩
  · rintro below _ ⟨⟨key, marker⟩, listed, rfl⟩
    exact below _ key ⟨marker, entries.mem_entries_iff.mp listed, rfl⟩

theorem le_newest (member : (sequence, key) ∈ aged entries) : sequence.toNat ≤ newest entries :=
  newest_le_iff.mp (Nat.le_refl _) sequence key member

theorem keys_aged_nodup (entries : SortedMap Bytes Bytes) : ((aged entries).map (·.2)).Nodup := by
  have perm := (List.mergeSort_perm (entries.entries.map fun e => (markerSequence e.2, e.1))
    fun a b => !before b a).map (·.2)
  rw [List.map_map] at perm
  exact perm.nodup_iff.mpr entries.keys_nodup

/-- A key that is stored with a number beyond all others becomes the newest. -/
theorem aged_insert (above : ∀ sequence' key', (sequence', key') ∈ aged entries →
    sequence'.toNat < sequence.toNat) :
    aged (entries.insert key (Word.toBytes sequence)) =
      (aged entries).filter (·.2 ≠ key) ++ [(sequence, key)] := by
  apply aged_eq
  · rw [List.pairwise_append]
    refine ⟨(aged_sorted entries).filter _, List.pairwise_singleton _ _, ?_⟩
    rintro ⟨sequence', key'⟩ older _ new
    rw [List.mem_singleton.mp new]
    have less := above sequence' key' (List.mem_of_mem_filter older)
    exact Bool.or_eq_true_iff.mpr (.inl (decide_eq_true less))
  · intro sequence' key'
    rw [SortedMap.get?_insert]
    by_cases same : key' = key
    · simp [same, markerSequence, eq_comm]
    · simp [same, mem_aged]

/-- Deleting the oldest key takes the first one off. -/
theorem aged_erase {rest : List (UInt64 × Bytes)} (first : aged entries = (sequence, key) :: rest) :
    aged (entries.erase key) = rest := by
  have sorted := aged_sorted entries
  have keys := keys_aged_nodup entries
  rw [first] at sorted keys
  apply aged_eq (List.pairwise_cons.mp sorted).2
  intro sequence' key'
  have member : (sequence', key') ∈ (sequence, key) :: rest ↔ _ := first ▸ mem_aged
  rw [List.mem_cons] at member
  rw [SortedMap.get?_erase]
  by_cases same : key' = key
  · subst same
    have gone : (sequence', key') ∉ rest := fun later =>
      (List.nodup_cons.mp keys).1 (List.mem_map.mpr ⟨_, later, rfl⟩)
    simp [gone]
  · rw [if_neg same, ← member]
    simp [same]

/-! ## The ages that a dedup holds -/

/-- The keys by age and the numbers by key say the same. -/
def KeyAges.Coherent (ages : KeyAges) : Prop :=
  ∀ sequence key, (sequence, key) ∈ ages.byAge.keys ↔ ages.sequenceOf.get? key = some sequence

namespace KeyAges.Coherent

theorem empty : KeyAges.Coherent {} := by
  intro sequence key
  simp [SortedMap.mem_keys_iff_get?]

theorem insert (coherent : ages.Coherent) (key : Bytes) (sequence : UInt64) :
    (ages.insert key sequence).Coherent := by
  intro sequence' key'
  simp only [KeyAges.insert, SortedMap.mem_keys_insert, SortedMap.get?_insert, Prod.mk.injEq]
  have before := coherent sequence' key'
  by_cases same : key' = key
  · subst same
    cases previous : ages.sequenceOf.get? key' with
    | none =>
      rw [previous] at before
      simp [before, eq_comm]
    | some number =>
      rw [previous] at before
      simp only [SortedMap.mem_keys_erase, before]
      grind
  · cases previous : ages.sequenceOf.get? key with
    | none => simp [same, before]
    | some number => simp [same, before, SortedMap.mem_keys_erase]

theorem remove (coherent : ages.Coherent) (held : (sequence, key) ∈ ages.byAge.keys) :
    (ages.remove (sequence, key)).Coherent := by
  intro sequence' key'
  have before := coherent sequence' key'
  have number := (coherent sequence key).mp held
  simp only [KeyAges.remove, SortedMap.mem_keys_erase, SortedMap.get?_erase, ne_eq,
    Prod.mk.injEq, before]
  by_cases same : key' = key
  · subst same
    simp [number, eq_comm]
  · simp [same]

end KeyAges.Coherent

/-- The ages repeat what the markers of the entries say. -/
structure Tracks (entries : SortedMap Bytes Bytes) (ages : KeyAges) : Prop where
  coherent : ages.Coherent
  sequences : ∀ key, ages.sequenceOf.get? key = (entries.get? key).map markerSequence

namespace Tracks

theorem keys (tracks : Tracks entries ages) : ages.byAge.keys = aged entries := by
  refine (aged_eq ages.byAge.keys_pairwise fun sequence key => ?_).symm
  rw [tracks.coherent, tracks.sequences]

/-- As many keys have ages as are stored. -/
theorem size (tracks : Tracks entries ages) : ages.size = (aged entries).length := by
  have perm : ages.sequenceOf.keys.Perm ((aged entries).map (·.2)) := by
    refine (List.perm_ext_iff_of_nodup ages.sequenceOf.keys_nodup (keys_aged_nodup entries)).mpr ?_
    intro key
    rw [SortedMap.mem_keys_iff_get?, List.mem_map]
    constructor
    · rintro ⟨sequence, known⟩
      rw [tracks.sequences] at known
      exact ⟨(sequence, key), mem_aged.mpr known, rfl⟩
    · rintro ⟨⟨sequence, _⟩, member, rfl⟩
      exact ⟨sequence, (tracks.sequences _).trans (mem_aged.mp member)⟩
  have lengths := perm.length_eq
  rw [SortedMap.keys, List.length_map, List.length_map] at lengths
  exact lengths

theorem oldest? (tracks : Tracks entries ages) : ages.oldest? = (aged entries).head? := by
  rw [KeyAges.oldest?, SortedMap.first?, ← tracks.keys, SortedMap.keys, List.head?_map]

theorem insert (tracks : Tracks entries ages) (key : Bytes) (sequence : UInt64) :
    Tracks (entries.insert key (Word.toBytes sequence)) (ages.insert key sequence) where
  coherent := tracks.coherent.insert key sequence
  sequences key' := by
    have before := tracks.sequences key'
    simp only [KeyAges.insert, SortedMap.get?_insert, before]
    split
    · simp [markerSequence]
    · rfl

theorem remove (tracks : Tracks entries ages) (held : (sequence, key) ∈ aged entries) :
    Tracks (entries.erase key) (ages.remove (sequence, key)) where
  coherent := tracks.coherent.remove (tracks.keys ▸ held)
  sequences key' := by
    have before := tracks.sequences key'
    simp only [KeyAges.remove, SortedMap.get?_erase, before]
    split
    · rfl
    · rfl

end Tracks

end StoreGraph
