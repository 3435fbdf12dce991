import StoreGraph.Proofs.Dedup.Saving

/-! # Opening a naive dedup

A dedup that is opened on a store lists the keys there and reads the marker of each. Over a plain
store that serves reads this always succeeds, and the dedup holds the ages of all stored keys,
whatever they are (`opens`).
-/

namespace StoreGraph

namespace PlainStore

variable {p : PlainStore} {w : World}

/-- A probe that refuses nothing but writes lets all keys be listed, heeding or not. -/
theorem run_forM_probe {cell : Ref .probe} {traits : ProbeTraits} (keys seen : List Bytes)
    (serving : (probe cell traits).Serving w) :
    ∃ w', (probe cell traits).Looks w w' ∧
      (keys.forM fun key => do
        StoreM.visiting (Probe.consult cell .visit (some key))
        if traits.stubborn then discard (attempt (VisitM.note (· ++ [key])))
          else (VisitM.note (· ++ [key]) : VisitM (List Bytes) Unit)).run (w, seen) =
        .ok () (w', seen ++ keys) := by
  have frame := (probe cell traits).frame_looks
  induction keys generalizing seen w with
  | nil => exact ⟨w, frame.refl w, by rw [List.append_nil]; rfl⟩
  | cons key rest ih =>
    have consulted := Probe.run_consult cell w .visit (some key)
    rw [consult_of_serving serving .visit (by decide)] at consulted
    have looks := looks_ruled cell traits .visit (some key) w
    obtain ⟨w', looks', run⟩ := ih (seen ++ [key]) (looks.serving serving)
    refine ⟨w', frame.trans looks looks', ?_⟩
    rw [List.append_assoc, List.singleton_append] at run
    simp only [List.forM, EStateM.run_bind, StoreM.run_visiting, consulted]
    cases stubborn : traits.stubborn with
    | true =>
      rw [stubborn] at run
      exact run
    | false =>
      rw [stubborn] at run
      exact run

theorem run_allKeys (serving : p.Serving w) :
    ∃ w', p.Looks w w' ∧ p.store.allKeys.run w = .ok (p.entries w).keys w' := by
  cases p with
  | memory cell => exact ⟨w, (frame_looks _).refl w, Storage.run_memory_allKeys cell w⟩
  | probe cell traits =>
    have looks := looks_entered cell traits .keys w
    have entered := Probe.run_enter cell w .keys
    rw [World.fault?, consult_of_serving serving Call.keys.op (by decide)] at entered
    obtain ⟨w', looks', run⟩ := run_forM_probe ((probe cell traits).entries w).keys []
      (looks.serving serving)
    have shown :
        ((Storage.probe cell traits).keys fun key => VisitM.note (· ++ [key])).run (w, []) =
          .ok () (w', ((probe cell traits).entries w).keys) := by
      rw [← looks.entries] at run ⊢
      simp only [Storage.probe, EStateM.run_bind, StoreM.run_visiting, entered]
      exact run
    refine ⟨w', (frame_looks _).trans looks looks', ?_⟩
    simp only [store, Store.allKeys, Store.storage, Storage.allKeys, VisitM.run_collect, shown]

end PlainStore

/-- The ages after some entries were read one after the other. -/
def KeyAges.readIn (ages : KeyAges) (entry : Bytes × Bytes) : KeyAges :=
  { ages.insert entry.1 (markerSequence entry.2) with
    next := max ages.next (markerSequence entry.2) }

section Reading

variable {p : PlainStore} {w : World} {entries : SortedMap Bytes Bytes}

theorem run_agesOf (listed : List (Bytes × Bytes)) (serving : p.Serving w)
    (stored : ∀ e ∈ listed, (p.entries w).get? e.1 = some e.2) (ages : KeyAges) :
    ∃ w', p.Looks w w' ∧ (Dedup.agesOf p.store ages (listed.map (·.1))).run w =
      .ok (listed.foldl KeyAges.readIn ages) w' := by
  induction listed generalizing ages w with
  | nil => exact ⟨w, p.frame_looks.refl w, rfl⟩
  | cons e rest ih =>
    obtain ⟨w₁, looks, found⟩ := PlainStore.run_find serving e.1
    rw [stored e List.mem_cons_self] at found
    have further : ∀ e ∈ rest, (p.entries w₁).get? e.1 = some e.2 := by
      intro e member
      rw [looks.entries]
      exact stored e (List.mem_cons_of_mem _ member)
    obtain ⟨w', looks', run⟩ := ih (looks.serving serving) further (ages.readIn e)
    refine ⟨w', p.frame_looks.trans looks looks', ?_⟩
    simp only [List.map_cons, Dedup.agesOf, EStateM.run_bind, found]
    exact run

/-- What the ages are after entries of a store were read. -/
theorem foldl_readIn (listed : List (Bytes × Bytes))
    (stored : ∀ e ∈ listed, entries.get? e.1 = some e.2) {ages : KeyAges}
    (coherent : ages.Coherent) :
    let read := listed.foldl KeyAges.readIn ages
    read.Coherent ∧
      (∀ key, read.sequenceOf.get? key =
        if key ∈ listed.map (·.1) then (entries.get? key).map markerSequence
        else ages.sequenceOf.get? key) ∧
      read.next.toNat = max ages.next.toNat
        ((listed.map fun e => (markerSequence e.2).toNat).foldr max 0) := by
  induction listed generalizing ages with
  | nil => exact ⟨coherent, fun _ => rfl, (Nat.max_zero _).symm⟩
  | cons e rest ih =>
    have first : (ages.readIn e).Coherent := coherent.insert e.1 (markerSequence e.2)
    obtain ⟨coherent', sequences, next⟩ :=
      ih (fun e member => stored e (List.mem_cons_of_mem _ member)) first
    refine ⟨coherent', fun key => ?_, ?_⟩
    · have number : (ages.readIn e).sequenceOf.get? key =
          if key = e.1 then some (markerSequence e.2) else ages.sequenceOf.get? key :=
        SortedMap.get?_insert _ _ _ _
      rw [List.foldl_cons, sequences, number, List.map_cons]
      by_cases later : key ∈ rest.map (·.1)
      · rw [if_pos later, if_pos (List.mem_cons_of_mem _ later)]
      · rw [if_neg later]
        by_cases here : key = e.1
        · rw [if_pos here, if_pos (by simp [here]), here, stored e List.mem_cons_self]
          rfl
        · rw [if_neg here, if_neg (by simp [here, later])]
    · have bigger : (ages.readIn e).next.toNat =
          max ages.next.toNat (markerSequence e.2).toNat := UInt64.toNat_max _ _
      rw [List.foldl_cons, next, bigger, List.map_cons, List.foldr_cons, Nat.max_assoc]

/-- The ages that are read off all entries of a store. -/
theorem tracks_readIn (entries : SortedMap Bytes Bytes) :
    Tracks entries (entries.entries.foldl KeyAges.readIn {}) ∧
      (entries.entries.foldl KeyAges.readIn {}).next.toNat = newest entries := by
  have stored : ∀ e ∈ entries.entries, entries.get? e.1 = some e.2 :=
    fun e member => entries.mem_entries_iff.mp member
  obtain ⟨coherent, sequences, next⟩ := foldl_readIn entries.entries stored .empty
  refine ⟨⟨coherent, fun key => ?_⟩, next.trans (Nat.zero_max _)⟩
  rw [sequences]
  split
  · rfl
  · rename_i absent
    have unknown : entries.get? key = none := by
      rw [← SortedMap.keys, SortedMap.mem_keys_iff_get?] at absent
      exact Option.eq_none_iff_forall_ne_some.mpr fun value held => absent ⟨value, held⟩
    rw [unknown]
    rfl

end Reading

/-- The limits that naive dedups accept. -/
structure Sensible (maxKeys cleanFactor : Nat) : Prop where
  keeps : 0 < maxKeys
  factor : 0 < cleanFactor
  fits : maxKeys * cleanFactor < UInt64.size

section Opening

variable {p : PlainStore} {w w' : World} {maxKeys cleanFactor : Nat} {d : Dedup}

theorem Sensible.of_run {store : Store}
    (run : (Dedup.newNaive store maxKeys cleanFactor).run w = .ok d w') :
    Sensible maxKeys cleanFactor := by
  by_cases none : maxKeys = 0
  · rw [Dedup.newNaive, if_pos none] at run
    cases run
  · by_cases never : cleanFactor = 0
    · simp only [Dedup.newNaive, none, never, if_false, if_true] at run
      cases run
    · by_cases many : UInt64.size ≤ maxKeys * cleanFactor
      · simp only [Dedup.newNaive, none, never, many, if_false, if_true] at run
        cases run
      · exact ⟨by omega, by omega, by omega⟩

/-- Opening a dedup reads the ages off its store, and leaves the entries alone. The next number
    comes after the newest one, as far as there are numbers. -/
theorem opens_tracking (sensible : Sensible maxKeys cleanFactor) (serving : p.Serving w) :
    ∃ ages w' newestRead, (Dedup.newNaive p.store maxKeys cleanFactor).run w =
        .ok ⟨.naive ages ⟨maxKeys, maxKeys * cleanFactor⟩, p.store⟩ w' ∧
      p.Works w w' ∧ p.entries w' = p.entries w ∧ Tracks (p.entries w') (w'.ages.get ages) ∧
      newestRead.toNat = newest (p.entries w) ∧ (w'.ages.get ages).next = newestRead + 1 := by
  obtain ⟨w₁, looks₁, listed⟩ := PlainStore.run_allKeys serving
  have stored : ∀ e ∈ (p.entries w).entries, (p.entries w₁).get? e.1 = some e.2 := by
    intro e member
    rw [looks₁.entries]
    exact (p.entries w).mem_entries_iff.mp member
  obtain ⟨w₂, looks₂, read⟩ := run_agesOf (p.entries w).entries (looks₁.serving serving) stored {}
  have looks := p.frame_looks.trans looks₁ looks₂
  obtain ⟨tracks, next⟩ := tracks_readIn (p.entries w)
  generalize (p.entries w).entries.foldl KeyAges.readIn {} = known at read tracks next
  let opened : KeyAges := { known with next := known.next + 1 }
  let w₃ := w₂.reporting (.dedupLoaded known.size)
  let w₄ := { w₃ with ages := (w₃.ages.alloc opened).2 }
  have held : w₄.ages.get (w₃.ages.alloc opened).1 = opened := w₃.ages.get_alloc_self opened
  obtain ⟨works, same⟩ : p.Works w₂ w₄ ∧ p.entries w₄ = p.entries w₂ := p.works_of_same rfl rfl
  have kept := same.trans looks.entries
  refine ⟨(w₃.ages.alloc opened).1, w₄, known.next, ?_, p.frame_works.trans looks.toWorks works,
    kept, ?_, next, by rw [held]⟩
  · have few : ¬ UInt64.size ≤ maxKeys * cleanFactor := Nat.not_le_of_lt sensible.fits
    simp only [Dedup.newNaive, Nat.ne_of_gt sensible.keeps, Nat.ne_of_gt sensible.factor, few,
      if_false, EStateM.run_bind, EStateM.run_pure, listed]
    rw [SortedMap.keys, read]
    rfl
  · rw [kept, held]
    exact ⟨tracks.coherent, tracks.sequences⟩

/-- A dedup that was opened is ready if there is a number after the newest one. -/
theorem opens (sensible : Sensible maxKeys cleanFactor) (serving : p.Serving w)
    (room : newest (p.entries w) + 1 < UInt64.size) :
    ∃ ages w', (Dedup.newNaive p.store maxKeys cleanFactor).run w =
        .ok ⟨.naive ages ⟨maxKeys, maxKeys * cleanFactor⟩, p.store⟩ w' ∧
      p.Works w w' ∧ p.entries w' = p.entries w ∧ Ready p ages w' := by
  obtain ⟨ages, w', number, run, works, kept, tracks, read, next⟩ := opens_tracking sensible serving
  refine ⟨ages, w', run, works, kept, tracks, ?_⟩
  rw [kept, next, UInt64.toNat_add, read]
  exact Nat.mod_eq_of_lt room

end Opening

end StoreGraph
