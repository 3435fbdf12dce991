import StoreGraph.Proofs.Creation
import StoreGraph.Proofs.Dedup.Ages
import StoreGraph.Proofs.Refusals

/-! # Saving keys in a store that may refuse

A naive dedup stores a key with the next number, and drops the oldest keys when there are too many.
Over a plain store any of these writes may be refused. A key that was not stored changes nothing,
and an eviction that gets stuck has dropped the oldest keys up to there (`saves`). Whatever happens,
the ages that the dedup holds are those of its store, and the next number is beyond all of them
(`Ready`).
-/

namespace StoreGraph

/-- The entries without the given number of oldest keys. -/
def withoutOldest : Nat → SortedMap Bytes Bytes → SortedMap Bytes Bytes
  | 0, entries => entries
  | n + 1, entries =>
    match aged entries with
    | [] => entries
    | oldest :: _ => withoutOldest n (entries.erase oldest.2)

/-- The entries in which a key was stored with the number after the newest one. -/
def stamped (key : Bytes) (entries : SortedMap Bytes Bytes) : SortedMap Bytes Bytes :=
  entries.insert key (Word.toBytes (UInt64.ofNat (newest entries + 1)))

/-- The entries after a key was saved. -/
def savedIn (limits : KeepLimits) (key : Bytes) (entries : SortedMap Bytes Bytes) :
    SortedMap Bytes Bytes :=
  let stored := entries.insert key (Word.toBytes (UInt64.ofNat (newest entries + 1)))
  if limits.threshold ≤ (aged stored).length then
    withoutOldest ((aged stored).length - limits.maxKeys) stored
  else stored

section Trimming

variable {entries : SortedMap Bytes Bytes} {key : Bytes} {limits : KeepLimits} {n : Nat}

theorem aged_withoutOldest (n : Nat) (entries : SortedMap Bytes Bytes) :
    aged (withoutOldest n entries) = (aged entries).drop n := by
  induction n generalizing entries with
  | zero => rfl
  | succ n ih =>
    rw [withoutOldest]
    cases first : aged entries with
    | nil => rw [first, List.drop_nil]
    | cons oldest rest =>
      dsimp only
      rw [ih, aged_erase first, List.drop_succ_cons]

/-- The saved key is the newest one. -/
theorem aged_stamped (room : newest entries + 1 < UInt64.size) (key : Bytes) :
    aged (stamped key entries) =
      (aged entries).filter (·.2 ≠ key) ++ [(UInt64.ofNat (newest entries + 1), key)] := by
  apply aged_insert
  intro sequence key' member
  rw [UInt64.toNat_ofNat_of_lt' room]
  exact Nat.lt_succ_of_le (le_newest member)

/-- Unless all keys are dropped, the saved one is kept. -/
theorem aged_trimmed (room : newest entries + 1 < UInt64.size)
    (some : n < (aged (stamped key entries)).length) :
    aged (withoutOldest n (stamped key entries)) =
      ((aged entries).filter (·.2 ≠ key)).drop n ++ [(UInt64.ofNat (newest entries + 1), key)] := by
  rw [aged_stamped room, List.length_append, List.length_singleton] at some
  rw [aged_withoutOldest, aged_stamped room, List.drop_append_of_le_length (by omega)]

theorem newest_trimmed (room : newest entries + 1 < UInt64.size)
    (some : n < (aged (stamped key entries)).length) :
    newest (withoutOldest n (stamped key entries)) = newest entries + 1 := by
  have list := aged_trimmed room some
  apply Nat.le_antisymm
  · refine newest_le_iff.mpr fun sequence key' member => ?_
    rw [list, List.mem_append, List.mem_singleton] at member
    obtain older | new := member
    · exact Nat.le_succ_of_le (le_newest (List.mem_of_mem_filter (List.mem_of_mem_drop older)))
    · cases new
      exact Nat.le_of_eq (UInt64.toNat_ofNat_of_lt' room)
  · have last : (UInt64.ofNat (newest entries + 1), key) ∈
        aged (withoutOldest n (stamped key entries)) := by
      rw [list]
      exact List.mem_append_right _ List.mem_cons_self
    have below := le_newest last
    rwa [UInt64.toNat_ofNat_of_lt' room] at below

/-- A save drops so many of the oldest keys that others are left. -/
theorem savedIn_eq (positive : 0 < limits.maxKeys) (room : newest entries + 1 < UInt64.size)
    (key : Bytes) :
    ∃ n < (aged (stamped key entries)).length,
      savedIn limits key entries = withoutOldest n (stamped key entries) := by
  have some : 0 < (aged (stamped key entries)).length := by
    rw [aged_stamped room, List.length_append, List.length_singleton]
    omega
  by_cases full : limits.threshold ≤ (aged (stamped key entries)).length
  · exact ⟨_, Nat.sub_lt some positive, if_pos full⟩
  · exact ⟨0, some, if_neg full⟩

theorem newest_savedIn (positive : 0 < limits.maxKeys) (room : newest entries + 1 < UInt64.size) :
    newest (savedIn limits key entries) = newest entries + 1 := by
  obtain ⟨n, some, same⟩ := savedIn_eq positive room key
  rw [same, newest_trimmed room some]

end Trimming

/-! ## Runs -/

namespace World

/-- The world in which the ages in a cell are changed. -/
def changeAges (w : World) (ages : Ref .ages) (f : KeyAges → KeyAges) : World :=
  { w with ages := w.ages.modify ages f }

@[simp] theorem ages_changeAges (w : World) (ages : Ref .ages) (f : KeyAges → KeyAges) :
    (w.changeAges ages f).ages.get ages = f (w.ages.get ages) := by
  simp [changeAges, Table.modify]

/-- The world in which it was reported and counted how many keys were dropped. -/
def countEvicted (w : World) (ages : Ref .ages) (evicted : Nat) : World :=
  { w.reporting (.dedupEvicted evicted (w.ages.get ages).size) with
    counters := { w.counters with dedupEvictions := w.counters.dedupEvictions + evicted } }

end World

/-- The ages that a dedup holds are those of its store, and the next number is beyond them all. -/
structure Ready (p : PlainStore) (ages : Ref .ages) (w : World) : Prop where
  tracks : Tracks (p.entries w) (w.ages.get ages)
  next : (w.ages.get ages).next.toNat = newest (p.entries w) + 1

section Ready

variable {p : PlainStore} {ages : Ref .ages} {w w' : World}

theorem Ready.number (ready : Ready p ages w) :
    (w.ages.get ages).next = UInt64.ofNat (newest (p.entries w) + 1) := by
  rw [← ready.next, UInt64.ofNat_toNat]

theorem Ready.congr (ready : Ready p ages w) (entries : p.entries w' = p.entries w)
    (same : w'.ages.get ages = w.ages.get ages) : Ready p ages w' := by
  constructor
  · rw [entries, same]
    exact ready.tracks
  · rw [entries, same]
    exact ready.next

end Ready

namespace DedupScheme

variable {p : PlainStore} {ages : Ref .ages} {limits : KeepLimits} {w : World} {key : Bytes}
  {n : Nat}

@[simp] theorem run_readAges (ages : Ref .ages) (w : World) :
    (readAges ages).run w = .ok (w.ages.get ages) w := rfl

@[simp] theorem run_updateAges (ages : Ref .ages) (f : KeyAges → KeyAges) (w : World) :
    (updateAges ages f).run w = .ok () (w.changeAges ages f) := rfl

/-- Some of the oldest keys were dropped, and that is all. -/
structure Dropped (p : PlainStore) (ages : Ref .ages) (n : Nat) (w w' : World) : Prop where
  works : p.Works w w'
  entries : p.entries w' = withoutOldest n (p.entries w)
  tracks : Tracks (p.entries w') (w'.ages.get ages)
  next : (w'.ages.get ages).next = (w.ages.get ages).next

/-- What comes of dropping keys: so many are dropped, unless the store refuses to delete one. -/
inductive Drops (p : PlainStore) (ages : Ref .ages) (n : Nat) (w : World) : Prop where
  | all {w'} (run : (dropOldest ages p.store.storage n).run w = .ok n w')
      (dropped : Dropped p ages n w w')
  | stuck {w' e m} (run : (dropOldest ages p.store.storage n).run w = .error e w') (fewer : m < n)
      (faulty : ¬ p.Faultless w) (dropped : Dropped p ages m w w')

/-- One key more was dropped before. -/
theorem Dropped.succ {w₁ w₂ : World} {oldest : UInt64 × Bytes} {rest : List (UInt64 × Bytes)}
    (first : aged (p.entries w) = oldest :: rest) (works : p.Works w w₁)
    (left : p.entries w₁ = (p.entries w).erase oldest.2)
    (next : (w₁.ages.get ages).next = (w.ages.get ages).next)
    (dropped : Dropped p ages n w₁ w₂) : Dropped p ages (n + 1) w w₂ where
  works := p.frame_works.trans works dropped.works
  entries := by rw [dropped.entries, left, withoutOldest, first]
  tracks := dropped.tracks
  next := dropped.next.trans next

/-- One key is dropped, then the others. -/
theorem run_dropOldest_succ {w₁ : World} {oldest : UInt64 × Bytes}
    (first : (w.ages.get ages).oldest? = some oldest)
    (deleted : (p.store.storage.del oldest.2).run w = .ok () w₁) (n : Nat) :
    (dropOldest ages p.store.storage (n + 1)).run w =
      match (dropOldest ages p.store.storage n).run (w₁.changeAges ages (·.remove oldest)) with
      | .ok m w' => .ok (m + 1) w'
      | .error e w' => .error e w' := by
  simp only [dropOldest, EStateM.run_bind, run_readAges, first, deleted, run_updateAges]
  cases (dropOldest ages p.store.storage n).run (w₁.changeAges ages (·.remove oldest)) with
  | ok m w' => rfl
  | error e w' => rfl

theorem drops_dropOldest (n : Nat) (tracks : Tracks (p.entries w) (w.ages.get ages))
    (enough : n ≤ (aged (p.entries w)).length) : Drops p ages n w := by
  induction n generalizing w with
  | zero => exact .all rfl ⟨p.frame_works.refl w, rfl, tracks, rfl⟩
  | succ n ih =>
    obtain ⟨⟨sequence, key⟩, rest, first⟩ := List.exists_cons_of_length_pos
      (show 0 < (aged (p.entries w)).length by omega)
    have oldest : (w.ages.get ages).oldest? = some (sequence, key) := by
      rw [tracks.oldest?, first, List.head?_cons]
    cases p.attempts (.del key) w with
    | @refused w' e run refusal looks =>
      have deleted : (p.store.storage.del key).run w = .error e w' := run
      have faulty := PlainStore.not_faultless_of_refusal refusal
      have known : w'.ages.get ages = w.ages.get ages := by rw [looks.rest]
      have stopped : (dropOldest ages p.store.storage (n + 1)).run w = .error e w' := by
        simp only [dropOldest, EStateM.run_bind, run_readAges, oldest, deleted]
      refine .stuck stopped (Nat.succ_pos n) faulty
        ⟨looks.toWorks, looks.entries, ?_, by rw [known]⟩
      rw [looks.entries, known]
      exact tracks
    | @done w₁ run accepted works left others =>
      have deleted : (p.store.storage.del key).run w = .ok () w₁ := run
      -- Where the rest of the keys is dropped: the oldest one has left the store and the ages.
      let w₂ := w₁.changeAges ages (·.remove (sequence, key))
      obtain ⟨works₂, same⟩ : p.Works w₁ w₂ ∧ p.entries w₂ = p.entries w₁ :=
        p.works_of_same rfl rfl
      have known : w₂.ages.get ages = (w.ages.get ages).remove (sequence, key) := by
        rw [World.ages_changeAges, others]
      have left₂ : p.entries w₂ = (p.entries w).erase key := same.trans left
      have tracks₂ : Tracks (p.entries w₂) (w₂.ages.get ages) := by
        rw [left₂, known]
        exact tracks.remove (by rw [first]; exact List.mem_cons_self)
      have enough₂ : n ≤ (aged (p.entries w₂)).length := by
        rw [left₂, aged_erase first]
        rw [first, List.length_cons] at enough
        omega
      have further : ∀ {m w'}, Dropped p ages m w₂ w' → Dropped p ages (m + 1) w w' :=
        fun dropped =>
          dropped.succ first (p.frame_works.trans works works₂) left₂ (by rw [known]; rfl)
      have begun := run_dropOldest_succ oldest deleted n
      cases ih tracks₂ enough₂ with
      | all run dropped =>
        rw [run] at begun
        exact .all begun (further dropped)
      | stuck run fewer faulty dropped =>
        rw [run] at begun
        exact .stuck begun (Nat.succ_lt_succ fewer)
          (fun faultless => faulty (works₂.faultless (works.faultless faultless))) (further dropped)

theorem run_evict (p : PlainStore) (ages : Ref .ages) (limits : KeepLimits) (w : World) :
    (evict ages limits p.store.storage).run w =
      match (dropOldest ages p.store.storage ((w.ages.get ages).size - limits.maxKeys)).run w with
      | .ok evicted w' => .ok () (w'.countEvicted ages evicted)
      | .error e w' => .error e w' := by
  simp only [evict, EStateM.run_bind, run_readAges]
  cases (dropOldest ages p.store.storage ((w.ages.get ages).size - limits.maxKeys)).run w with
  | ok evicted w' => rfl
  | error e w' => rfl

/-- A key was stored with the next number, and that is all. -/
structure Stored (p : PlainStore) (ages : Ref .ages) (key : Bytes) (w w' : World) : Prop where
  works : p.Works w w'
  entries : p.entries w' = stamped key (p.entries w)
  tracks : Tracks (p.entries w') (w'.ages.get ages)
  next : (w'.ages.get ages).next = (w.ages.get ages).next + 1

/-- The marker under which a key is stored next. -/
def marker (ages : Ref .ages) (w : World) : Bytes := Word.toBytes (w.ages.get ages).next

theorem stored_put {w₁ : World} (ready : Ready p ages w) (works : p.Works w w₁)
    (entries : p.entries w₁ = (p.entries w).insert key (marker ages w))
    (same : w₁.ages.get ages = w.ages.get ages) :
    let note (known : KeyAges) : KeyAges :=
      { known.insert key (w.ages.get ages).next with next := (w.ages.get ages).next + 1 }
    Stored p ages key w (w₁.changeAges ages note) := by
  intro note
  let w₂ := w₁.changeAges ages note
  obtain ⟨works₂, kept⟩ : p.Works w₁ w₂ ∧ p.entries w₂ = p.entries w₁ := p.works_of_same rfl rfl
  have known : w₂.ages.get ages = note (w.ages.get ages) := by
    rw [World.ages_changeAges, same]
  refine ⟨p.frame_works.trans works works₂, ?_, ?_, by rw [known]⟩
  · rw [kept, entries, stamped, marker, ready.number]
  · obtain ⟨coherent, sequences⟩ := ready.tracks.insert key (w.ages.get ages).next
    rw [kept, entries, known]
    exact ⟨coherent, sequences⟩

/-- As long as a key is left, the dedup is ready again. -/
theorem Stored.ready {w₁ w₂ : World} (stored : Stored p ages key w w₁) (ready : Ready p ages w)
    (room : newest (p.entries w) + 1 < UInt64.size - 1) (dropped : Dropped p ages n w₁ w₂)
    (some : n < (aged (stamped key (p.entries w))).length) : Ready p ages w₂ where
  tracks := dropped.tracks
  next := by
    rw [dropped.next, stored.next, dropped.entries, stored.entries, newest_trimmed (by omega) some,
      ready.number, ← UInt64.ofNat_one, ← UInt64.ofNat_add, UInt64.toNat_ofNat_of_lt' (by omega)]

/-- What comes of saving a key. -/
inductive Saves (p : PlainStore) (ages : Ref .ages) (limits : KeepLimits) (key : Bytes)
    (w : World) : Prop where
  | done {w'} (run : (save p.store.storage key (.naive ages limits)).run w = .ok () w')
      (accepted : p.refusal? w (.put key (marker ages w)) = none)
      (works : p.Works w w') (entries : p.entries w' = savedIn limits key (p.entries w))
      (ready : Ready p ages w')
  /-- The key could not be stored. -/
  | refused {w' e} (run : (save p.store.storage key (.naive ages limits)).run w = .error e w')
      (refusal : p.refusal? w (.put key (marker ages w)) = some e)
      (faulty : ¬ p.Faultless w) (looks : p.Looks w w')
  /-- The key is stored, but one of the keys in excess could not be dropped. -/
  | stuck {w' e n} (run : (save p.store.storage key (.naive ages limits)).run w = .error e w')
      (accepted : p.refusal? w (.put key (marker ages w)) = none)
      (faulty : ¬ p.Faultless w) (works : p.Works w w')
      (fewer : n < (aged (stamped key (p.entries w))).length - limits.maxKeys)
      (entries : p.entries w' = withoutOldest n (stamped key (p.entries w)))
      (ready : Ready p ages w')

/-- What comes of a save once the key is stored. -/
theorem saves_of_stored {w₁ : World} (ready : Ready p ages w) (positive : 0 < limits.maxKeys)
    (room : newest (p.entries w) + 1 < UInt64.size - 1)
    (accepted : p.refusal? w (.put key (marker ages w)) = none) (stored : Stored p ages key w w₁)
    (run : (save p.store.storage key (.naive ages limits)).run w =
      (if limits.threshold ≤ (w₁.ages.get ages).size then evict ages limits p.store.storage
        else pure ()).run w₁) : Saves p ages limits key w := by
  have size : (w₁.ages.get ages).size = (aged (stamped key (p.entries w))).length := by
    rw [stored.tracks.size, stored.entries]
  have some : 0 < (aged (stamped key (p.entries w))).length := by
    rw [aged_stamped (by omega), List.length_append, List.length_singleton]
    omega
  rw [size] at run
  by_cases full : limits.threshold ≤ (aged (stamped key (p.entries w))).length
  · rw [if_pos full, run_evict, size] at run
    have enough : (aged (stamped key (p.entries w))).length - limits.maxKeys ≤
        (aged (p.entries w₁)).length := by
      rw [stored.entries]
      exact Nat.sub_le _ _
    cases drops_dropOldest _ stored.tracks enough with
    | @all w₂ drop dropped =>
      rw [drop] at run
      have left := stored.ready ready room dropped (Nat.sub_lt some positive)
      let w₃ := w₂.countEvicted ages ((aged (stamped key (p.entries w))).length - limits.maxKeys)
      obtain ⟨works, same⟩ : p.Works w₂ w₃ ∧ p.entries w₃ = p.entries w₂ := p.works_of_same rfl rfl
      refine .done run accepted (p.frame_works.trans stored.works
        (p.frame_works.trans dropped.works works)) ?_ (left.congr same rfl)
      rw [same, dropped.entries, stored.entries]
      exact (if_pos full).symm
    | @stuck w₂ e m drop fewer faulty dropped =>
      rw [drop] at run
      refine .stuck run accepted (fun faultless => faulty (stored.works.faultless faultless))
        (p.frame_works.trans stored.works dropped.works) fewer ?_
        (stored.ready ready room dropped (by omega))
      rw [dropped.entries, stored.entries]
  · rw [if_neg full] at run
    have dropped : Dropped p ages 0 w₁ w₁ := ⟨p.frame_works.refl w₁, rfl, stored.tracks, rfl⟩
    exact .done run accepted stored.works (stored.entries.trans (if_neg full).symm)
      (stored.ready ready room dropped some)

theorem saves (key : Bytes) (ready : Ready p ages w) (positive : 0 < limits.maxKeys)
    (room : p.refusal? w (.put key (marker ages w)) = none →
      newest (p.entries w) + 1 < UInt64.size - 1) : Saves p ages limits key w := by
  cases p.attempts (.put key (marker ages w)) w with
  | @refused w' e run refusal looks =>
    have put : (p.store.storage.put key (Word.toBytes (w.ages.get ages).next)).run w =
        .error e w' := run
    have stopped : (save p.store.storage key (.naive ages limits)).run w = .error e w' := by
      simp only [save, EStateM.run_bind, run_readAges, put]
    exact .refused stopped refusal (PlainStore.not_faultless_of_refusal refusal) looks
  | @done w₁ run accepted works stored others =>
    have put : (p.store.storage.put key (Word.toBytes (w.ages.get ages).next)).run w =
        .ok () w₁ := run
    refine saves_of_stored ready positive (room accepted) accepted
      (stored_put ready works stored (by rw [others])) ?_
    simp only [save, EStateM.run_bind, run_readAges, put, run_updateAges]

end DedupScheme

end StoreGraph
