import StoreGraph.KeyOrder

/-! # Finite maps in key order

A `SortedMap` is the list of its entries in strictly increasing key order. The list is canonical:
two maps that answer every look-up alike are equal (`SortedMap.ext_get?`), so "nothing changed" can
be said as an equation between maps.

Main statements: `get?_insert` and `get?_erase` say what each operation does to look-ups,
`mem_entries_iff` ties look-ups to the entries, and `keys_pairwise` is the order of enumeration.
-/

namespace StoreGraph

open KeyOrder

/-- A finite map whose entries are listed in strictly increasing key order. -/
structure SortedMap (κ ν : Type) [KeyOrder κ] where
  /-- The entries, one per key. -/
  entries : List (κ × ν)
  /-- Every entry's key comes strictly before the keys of the later entries. -/
  sorted : entries.Pairwise fun a b => before a.1 b.1 = true

def lookupEntry {κ ν : Type} [KeyOrder κ] (key : κ) : List (κ × ν) → Option ν
  | [] => none
  | (k, v) :: rest =>
    if before key k then none
    else if before k key then lookupEntry key rest
    else some v

/-- Put an entry at its place in a list of entries, over an entry of the same key. -/
def insertEntry {κ ν : Type} [KeyOrder κ] (key : κ) (value : ν) : List (κ × ν) → List (κ × ν)
  | [] => [(key, value)]
  | (k, v) :: rest =>
    if before key k then (key, value) :: (k, v) :: rest
    else if before k key then (k, v) :: insertEntry key value rest
    else (key, value) :: rest

def eraseEntry {κ ν : Type} [KeyOrder κ] (key : κ) : List (κ × ν) → List (κ × ν)
  | [] => []
  | (k, v) :: rest =>
    if before key k then (k, v) :: rest
    else if before k key then (k, v) :: eraseEntry key rest
    else rest

section Entries

variable {κ ν : Type} [KeyOrder κ]

theorem mem_insertEntry {key : κ} {value : ν} {l : List (κ × ν)} {e : κ × ν}
    (h : e ∈ insertEntry key value l) : e = (key, value) ∨ e ∈ l := by
  induction l with
  | nil => simpa [insertEntry] using h
  | cons kv rest ih =>
    obtain ⟨k, v⟩ := kv
    simp only [insertEntry] at h
    split at h
    · simpa using h
    · split at h
      · rcases List.mem_cons.1 h with h | h
        · simp [h]
        · rcases ih h with h | h <;> simp [h]
      · rcases List.mem_cons.1 h with h | h <;> simp [h]

theorem mem_of_mem_eraseEntry {key : κ} {l : List (κ × ν)} {e : κ × ν}
    (h : e ∈ eraseEntry key l) : e ∈ l := by
  induction l with
  | nil => simp [eraseEntry] at h
  | cons kv rest ih =>
    obtain ⟨k, v⟩ := kv
    simp only [eraseEntry] at h
    split at h
    · exact h
    · split at h
      · rcases List.mem_cons.1 h with h | h
        · simp [h]
        · simp [ih h]
      · simp [h]

theorem sorted_insertEntry {key : κ} {value : ν} {l : List (κ × ν)}
    (h : l.Pairwise fun a b => before a.1 b.1 = true) :
    (insertEntry key value l).Pairwise fun a b => before a.1 b.1 = true := by
  induction l with
  | nil => simp [insertEntry]
  | cons kv rest ih =>
    obtain ⟨k, v⟩ := kv
    rw [List.pairwise_cons] at h
    simp only [insertEntry]
    split
    · rename_i hk
      refine List.pairwise_cons.2 ⟨?_, List.pairwise_cons.2 h⟩
      intro e he
      rcases List.mem_cons.1 he with rfl | he
      · exact hk
      · exact before_trans hk (h.1 e he)
    · split
      · rename_i hk
        refine List.pairwise_cons.2 ⟨?_, ih h.2⟩
        intro e he
        rcases mem_insertEntry he with rfl | he
        · exact hk
        · exact h.1 e he
      · rename_i h₁ h₂
        have hkey : key = k := eq_of_not_before (by simpa using h₁) (by simpa using h₂)
        subst hkey
        exact List.pairwise_cons.2 ⟨h.1, h.2⟩

theorem sorted_eraseEntry {key : κ} {l : List (κ × ν)}
    (h : l.Pairwise fun a b => before a.1 b.1 = true) :
    (eraseEntry key l).Pairwise fun a b => before a.1 b.1 = true := by
  induction l with
  | nil => simp [eraseEntry]
  | cons kv rest ih =>
    obtain ⟨k, v⟩ := kv
    rw [List.pairwise_cons] at h
    simp only [eraseEntry]
    split
    · exact List.pairwise_cons.2 h
    · split
      · exact List.pairwise_cons.2 ⟨fun e he => h.1 e (mem_of_mem_eraseEntry he), ih h.2⟩
      · exact h.2

theorem lookupEntry_eq_none_of_before {key : κ} {l : List (κ × ν)}
    (h : ∀ e ∈ l, before key e.1 = true) : lookupEntry key l = none := by
  cases l with
  | nil => rfl
  | cons kv rest => simp [lookupEntry, h kv (by simp)]

theorem lookupEntry_insertEntry {key key' : κ} {value : ν} {l : List (κ × ν)}
    [Decidable (key' = key)] (h : l.Pairwise fun a b => before a.1 b.1 = true) :
    lookupEntry key' (insertEntry key value l)
      = if key' = key then some value else lookupEntry key' l := by
  induction l with
  | nil =>
    by_cases heq : key' = key
    · subst heq
      simp [insertEntry, lookupEntry, before_self]
    · simp only [insertEntry, lookupEntry, heq, if_false]
      split
      · rfl
      · split
        · rfl
        · rename_i h₁ h₂
          exact absurd (eq_of_not_before (by simpa using h₁) (by simpa using h₂)) heq
  | cons kv rest ih =>
    obtain ⟨k, v⟩ := kv
    rw [List.pairwise_cons] at h
    have ih := ih h.2
    by_cases heq : key' = key
    · subst heq
      simp only [if_true] at ih ⊢
      simp only [insertEntry]
      split
      · simp [lookupEntry, before_self]
      · split
        · rename_i h₁ h₂
          simp [lookupEntry, h₁, h₂, ih]
        · simp [lookupEntry, before_self]
    · simp only [heq, if_false] at ih ⊢
      simp only [insertEntry]
      split
      · rename_i hk
        simp only [lookupEntry]
        cases h₁ : before key' key with
        | true => simp [before_trans h₁ hk]
        | false =>
          cases h₂ : before key key' with
          | true => simp
          | false => exact absurd (eq_of_not_before h₁ h₂) heq
      · split
        · simp only [lookupEntry, ih]
        · rename_i h₁ h₂
          have hkey : key = k := eq_of_not_before (by simpa using h₁) (by simpa using h₂)
          subst hkey
          simp only [lookupEntry]
          cases h₁ : before key' key with
          | true => simp
          | false =>
            cases h₂ : before key key' with
            | true => simp
            | false => exact absurd (eq_of_not_before h₁ h₂) heq

theorem lookupEntry_eraseEntry {key key' : κ} {l : List (κ × ν)} [Decidable (key' = key)]
    (h : l.Pairwise fun a b => before a.1 b.1 = true) :
    lookupEntry key' (eraseEntry key l) = if key' = key then none else lookupEntry key' l := by
  induction l with
  | nil => simp [eraseEntry, lookupEntry]
  | cons kv rest ih =>
    obtain ⟨k, v⟩ := kv
    rw [List.pairwise_cons] at h
    have ih := ih h.2
    by_cases heq : key' = key
    · subst heq
      simp only [if_true] at ih ⊢
      simp only [eraseEntry]
      split
      · rename_i hk
        simp [lookupEntry, hk]
      · split
        · rename_i h₁ h₂
          simp [lookupEntry, h₁, h₂, ih]
        · rename_i h₁ h₂
          have hkey : key' = k := eq_of_not_before (by simpa using h₁) (by simpa using h₂)
          subst hkey
          exact lookupEntry_eq_none_of_before h.1
    · simp only [heq, if_false] at ih ⊢
      simp only [eraseEntry]
      split
      · rfl
      · split
        · simp only [lookupEntry, ih]
        · rename_i h₁ h₂
          have hkey : key = k := eq_of_not_before (by simpa using h₁) (by simpa using h₂)
          subst hkey
          simp only [lookupEntry]
          cases h₁ : before key' key with
          | true =>
            simp only [if_true]
            exact lookupEntry_eq_none_of_before fun e he => before_trans h₁ (h.1 e he)
          | false =>
            cases h₂ : before key key' with
            | true => simp
            | false => exact absurd (eq_of_not_before h₁ h₂) heq

theorem lookupEntry_eq_some_iff {key : κ} {value : ν} {l : List (κ × ν)}
    (h : l.Pairwise fun a b => before a.1 b.1 = true) :
    lookupEntry key l = some value ↔ (key, value) ∈ l := by
  induction l with
  | nil => simp [lookupEntry]
  | cons kv rest ih =>
    obtain ⟨k, v⟩ := kv
    rw [List.pairwise_cons] at h
    have ih := ih h.2
    simp only [lookupEntry, List.mem_cons, Prod.mk.injEq]
    cases h₁ : before key k with
    | true =>
      simp only [if_true, reduceCtorEq, false_iff, not_or]
      refine ⟨fun hk => ne_of_before h₁ hk.1, fun hm => ?_⟩
      have := h.1 _ hm
      simp [before_asymm h₁] at this
    | false =>
      cases h₂ : before k key with
      | true =>
        have hne : key ≠ k := (ne_of_before h₂).symm
        simp [ih, hne]
      | false =>
        have hkey : key = k := eq_of_not_before h₁ h₂
        subst hkey
        simp only [Bool.false_eq_true, if_false, Option.some.injEq, true_and]
        constructor
        · exact fun hv => .inl hv.symm
        · rintro (hv | hm)
          · exact hv.symm
          · have := h.1 _ hm
            simp [before_self] at this

theorem entries_ext {l₁ l₂ : List (κ × ν)}
    (h₁ : l₁.Pairwise fun a b => before a.1 b.1 = true)
    (h₂ : l₂.Pairwise fun a b => before a.1 b.1 = true)
    (h : ∀ e, e ∈ l₁ ↔ e ∈ l₂) : l₁ = l₂ := by
  induction l₁ generalizing l₂ with
  | nil =>
    cases l₂ with
    | nil => rfl
    | cons e rest => exact absurd ((h e).2 (by simp)) (by simp)
  | cons e₁ rest₁ ih =>
    cases l₂ with
    | nil => exact absurd ((h e₁).1 (by simp)) (by simp)
    | cons e₂ rest₂ =>
      rw [List.pairwise_cons] at h₁ h₂
      have heq : e₁ = e₂ := by
        rcases List.mem_cons.1 ((h e₁).1 (by simp)) with heq | hm₁
        · exact heq
        · rcases List.mem_cons.1 ((h e₂).2 (by simp)) with heq | hm₂
          · exact heq.symm
          · have := before_asymm (h₂.1 _ hm₁)
            simp [h₁.1 _ hm₂] at this
      subst heq
      congr 1
      refine ih h₁.2 h₂.2 fun e => ?_
      constructor
      · intro hm
        rcases List.mem_cons.1 ((h e).1 (by simp [hm])) with rfl | hm'
        · have := h₁.1 _ hm
          simp [before_self] at this
        · exact hm'
      · intro hm
        rcases List.mem_cons.1 ((h e).2 (by simp [hm])) with rfl | hm'
        · have := h₂.1 _ hm
          simp [before_self] at this
        · exact hm'

end Entries

namespace SortedMap

variable {κ ν : Type} [KeyOrder κ]

def empty : SortedMap κ ν := ⟨[], .nil⟩

instance : Inhabited (SortedMap κ ν) := ⟨empty⟩

def get? (m : SortedMap κ ν) (key : κ) : Option ν := lookupEntry key m.entries

def insert (m : SortedMap κ ν) (key : κ) (value : ν) : SortedMap κ ν :=
  ⟨insertEntry key value m.entries, sorted_insertEntry m.sorted⟩

def erase (m : SortedMap κ ν) (key : κ) : SortedMap κ ν :=
  ⟨eraseEntry key m.entries, sorted_eraseEntry m.sorted⟩

def contains (m : SortedMap κ ν) (key : κ) : Bool := (m.get? key).isSome

def keys (m : SortedMap κ ν) : List κ := m.entries.map (·.1)

def size (m : SortedMap κ ν) : Nat := m.entries.length

def isEmpty (m : SortedMap κ ν) : Bool := m.entries.isEmpty

/-- The entry that comes first, if there is one. -/
def first? (m : SortedMap κ ν) : Option (κ × ν) := m.entries.head?

/-- Insert a list of entries one after the other; the last one of a key stays. -/
def ofList (l : List (κ × ν)) : SortedMap κ ν :=
  l.foldl (fun m e => m.insert e.1 e.2) empty

@[simp] theorem get?_empty (key : κ) : (empty : SortedMap κ ν).get? key = none := rfl

theorem get?_insert [DecidableEq κ] (m : SortedMap κ ν) (key key' : κ) (value : ν) :
    (m.insert key value).get? key' = if key' = key then some value else m.get? key' :=
  lookupEntry_insertEntry m.sorted

@[simp] theorem get?_insert_self (m : SortedMap κ ν) (key : κ) (value : ν) :
    (m.insert key value).get? key = some value := by
  classical simp [get?_insert]

theorem get?_insert_of_ne (m : SortedMap κ ν) {key key' : κ} (h : key' ≠ key) (value : ν) :
    (m.insert key value).get? key' = m.get? key' := by
  classical simp [get?_insert, h]

theorem get?_erase [DecidableEq κ] (m : SortedMap κ ν) (key key' : κ) :
    (m.erase key).get? key' = if key' = key then none else m.get? key' :=
  lookupEntry_eraseEntry m.sorted

@[simp] theorem get?_erase_self (m : SortedMap κ ν) (key : κ) : (m.erase key).get? key = none := by
  classical simp [get?_erase]

theorem get?_erase_of_ne (m : SortedMap κ ν) {key key' : κ} (h : key' ≠ key) :
    (m.erase key).get? key' = m.get? key' := by
  classical simp [get?_erase, h]

/-- An entry is listed exactly if looking its key up gives its value. -/
theorem mem_entries_iff (m : SortedMap κ ν) {key : κ} {value : ν} :
    (key, value) ∈ m.entries ↔ m.get? key = some value :=
  (lookupEntry_eq_some_iff m.sorted).symm

theorem mem_keys_iff (m : SortedMap κ ν) {key : κ} : key ∈ m.keys ↔ m.contains key = true := by
  simp only [keys, List.mem_map, contains, Option.isSome_iff_exists]
  constructor
  · rintro ⟨⟨k, v⟩, hm, rfl⟩
    exact ⟨v, m.mem_entries_iff.1 hm⟩
  · rintro ⟨v, hv⟩
    exact ⟨(key, v), m.mem_entries_iff.2 hv, rfl⟩

theorem keys_pairwise (m : SortedMap κ ν) :
    m.keys.Pairwise fun a b => before a b = true :=
  List.pairwise_map.2 m.sorted

theorem keys_nodup (m : SortedMap κ ν) : m.keys.Nodup :=
  m.keys_pairwise.imp ne_of_before

theorem ext_get? {m₁ m₂ : SortedMap κ ν} (h : ∀ key, m₁.get? key = m₂.get? key) : m₁ = m₂ := by
  have hentries : m₁.entries = m₂.entries := entries_ext m₁.sorted m₂.sorted fun ⟨k, v⟩ => by
    rw [mem_entries_iff, mem_entries_iff, h]
  cases m₁
  cases m₂
  simpa using hentries

end SortedMap

end StoreGraph
