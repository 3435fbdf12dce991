import StoreGraph.Proofs.Dedup.Opening

/-! # Operations of a naive dedup

What the operations of a naive dedup over an in-memory store answer, and which entries they leave.
The ages that it holds beside the store can always be computed from the store (`Live`), so that a
dedup which is opened again on the same store goes on as before (`run_newNaive`).
-/

namespace StoreGraph

variable {limits : KeepLimits} {cell : Ref .memory} {ages : Ref .ages} {w : World}

/-- The ages that a dedup holds are those of its store, and the next number is beyond them all. -/
structure Live (cell : Ref .memory) (ages : Ref .ages) (w : World) : Prop where
  tracks : Tracks (w.entries cell) (w.ages.get ages)
  next : (w.ages.get ages).next.toNat = newest (w.entries cell) + 1

theorem ready_iff_live : Ready (.memory cell) ages w ↔ Live cell ages w :=
  ⟨fun ready => ⟨ready.tracks, ready.next⟩, fun live => ⟨live.tracks, live.next⟩⟩

theorem Live.congr {w' : World} (live : Live cell ages w)
    (entries : w'.entries cell = w.entries cell) (known : w'.ages.get ages = w.ages.get ages) :
    Live cell ages w' :=
  ready_iff_live.mp ((ready_iff_live.mpr live).congr entries known)

namespace DedupScheme

/-- Saving a key stores it with the next number, and drops what is too much. Other stores are left
    alone. -/
theorem run_save (live : Live cell ages w) (positive : 0 < limits.maxKeys)
    (room : newest (w.entries cell) + 1 < UInt64.size - 1) (key : Bytes) :
    ∃ w', (save (Storage.memory cell) key (.naive ages limits)).run w = .ok () w' ∧
      w'.entries cell = savedIn limits key (w.entries cell) ∧ Live cell ages w' ∧
      ∀ other, other ≠ cell → w'.entries other = w.entries other := by
  cases saves key (ready_iff_live.mpr live) positive fun _ => room with
  | done run accepted works entries ready =>
    exact ⟨_, run, entries, ready_iff_live.mp ready, fun other apart =>
      works.entries_apart (q := .memory other) apart.symm⟩
  | refused run refusal faulty looks => exact absurd trivial faulty
  | stuck run accepted faulty works fewer entries ready => exact absurd trivial faulty

/-- A key counts as saved exactly if it is stored. -/
theorem run_isSaved (key : Bytes) (w : World) :
    (isSaved (Storage.memory cell) key (.naive ages limits)).run w =
      .ok ((w.entries cell).contains key) w := by
  simp only [isSaved, Storage.contains, EStateM.run_bind, Storage.run_memory_find, EStateM.run_pure,
    SortedMap.contains]

end DedupScheme

/-- The live dedup over a memory cell, with its ages in a cell of their own. -/
def Dedup.naiveOn (cell : Ref .memory) (ages : Ref .ages) (maxKeys cleanFactor : Nat) : Dedup :=
  ⟨.naive ages ⟨maxKeys, maxKeys * cleanFactor⟩, .memory cell⟩

/-- Opening a dedup reads the ages off its store, and leaves all entries alone. -/
theorem run_newNaive {maxKeys cleanFactor : Nat} (sensible : Sensible maxKeys cleanFactor)
    (cell : Ref .memory) (w : World) (room : newest (w.entries cell) + 1 < UInt64.size) :
    ∃ ages w', (Dedup.newNaive (.memory cell) maxKeys cleanFactor).run w =
        .ok (.naiveOn cell ages maxKeys cleanFactor) w' ∧
      w'.entries = w.entries ∧ Live cell ages w' := by
  obtain ⟨ages, w', run, works, same, ready⟩ :=
    opens (p := .memory cell) (w := w) sensible trivial room
  refine ⟨ages, w', run, funext fun cell' => ?_, ready_iff_live.mp ready⟩
  by_cases own : cell' = cell
  · rw [own]
    exact same
  · exact works.entries_apart (q := .memory cell') (Ne.symm own)

end StoreGraph
