import StoreGraph.Proofs.Graph.Building
import StoreGraph.Proofs.Graph.Keys

/-! # Store graphs as maps

A graph that was resolved over memory backends answers as one map from keys to values, however its
stores are nested and shared. The leaves to which a key belongs agree on it, and no other leaf holds
it (`Represents`); every operation keeps this.
-/

namespace StoreGraph

open Store Footprint

/-- The leaves of a store hold a map, each key where it belongs. If dedups are private, nothing is
    marked. -/
structure Represents (free : Prop) (s : Store) (w : World) (m : Bytes → Option Bytes) : Prop where
  agree : ∀ {key cell}, LeafFor key s cell → (w.entries cell).get? key = m key
  routed : ∀ {key cell}, Leaf s cell → (w.entries cell).get? key ≠ none → LeafFor key s cell
  clean : free → (of s).Clean w

namespace Represents

variable {free : Prop} {s : Store} {w w' : World} {m : Bytes → Option Bytes}

theorem fresh (placed : Placed free (· = s) w) : Represents free s w fun _ => none where
  agree leaf := by
    rw [(placed.leaf rfl leaf.leaf).empty, SortedMap.get?_empty]
  routed leaf held := by
    rw [(placed.leaf rfl leaf).empty, SortedMap.get?_empty] at held
    exact absurd rfl held
  clean all cell marks := (placed.marks all rfl marks).empty

theorem wrote (h : Represents free s w m) (apart : free → (of s).Apart) {key : Bytes}
    {value : Option Bytes} (wrote : Wrote (LeafFor key s) key value w w') :
    Represents free s w' (Function.update m key value) where
  agree {other cell} leaf := by
    by_cases same : other = key
    · subst same
      rw [wrote.written cell leaf, Function.update_self]
    · rw [wrote.kept cell other fun both => same both.2, Function.update_of_ne same]
      exact h.agree leaf
  routed {other cell} leaf held := by
    by_cases both : LeafFor key s cell ∧ other = key
    · exact both.2 ▸ both.1
    · rw [wrote.kept cell other both] at held
      exact h.routed leaf held
  clean all cell marks := by
    rw [← h.clean all cell marks]
    apply SortedMap.ext_get?
    intro other
    exact wrote.kept cell other fun both => apart all cell marks both.1.leaf

theorem kept (h : Represents free s w m)
    (same : ∀ cell, Leaf s cell → w'.entries cell = w.entries cell) (clean : (of s).Clean w') :
    Represents free s w' m where
  agree {key cell} leaf := by
    rw [same cell leaf.leaf]
    exact h.agree leaf
  routed {key cell} leaf held := by
    rw [same cell leaf] at held
    exact h.routed leaf held
  clean _ := clean

/-- What the leaves hold are the keys of the map. -/
theorem holds_iff (h : Represents free s w m) (wired : Wired s) (key : Bytes) :
    (of s).Holds w key ↔ m key ≠ none := by
  constructor
  · intro holds
    obtain ⟨cell, leaf, held⟩ := holds
    rw [← h.agree (h.routed leaf held)]
    exact held
  · intro live
    obtain ⟨cell, leaf⟩ := wired.exists_leafFor key
    refine ⟨cell, leaf.leaf, ?_⟩
    rw [h.agree leaf]
    exact live

end Represents

/-- The worlds that a run of operations on a store leads to, and the map that the run amounts to.
    The keys are enumerated only where dedups are private, and visitors spare the store. -/
inductive Reached (free : Prop) (s : Store) (start : World) :
    World → (Bytes → Option Bytes) → Prop where
  | fresh : Reached free s start start fun _ => none
  | put {w m} (key value : Bytes) (before : Reached free s start w m) :
      Reached free s start (stateAfter (s.put key value) w) (Function.update m key (some value))
  | get {w m} (key : Bytes) (before : Reached free s start w m) :
      Reached free s start (stateAfter (s.get key) w) m
  | del {w m} (key : Bytes) (before : Reached free s start w m) :
      Reached free s start (stateAfter (s.del key) w) (Function.update m key none)
  | keys {w m} {τ : Type} {visit : Bytes → VisitM τ Unit} {t : τ}
      (before : Reached free s start w m) (all : free)
      (outside : ∀ key, Leaves (of s).Outside (visit key)) :
      Reached free s start (stateAfter (s.keys visit) (w, t)).1 m

section Runs

variable {free : Prop} {s : Store} {start w : World} {m : Bytes → Option Bytes}

theorem Reached.represents (placed : Placed free (· = s) start)
    (reached : Reached free s start w m) : Represents free s w m := by
  have wired : Wired s := placed.wired rfl
  have apart : free → (of s).Apart := fun all cell marks leaf =>
    placed.apart all rfl rfl marks leaf
  induction reached with
  | fresh => exact .fresh placed
  | @put w m key value before ih =>
    obtain ⟨w', run, wrote⟩ := writes_put wired key value w
    rw [stateAfter_ok run]
    exact ih.wrote apart wrote
  | @get w m key before ih =>
    have run : (s.get key).run w = answer w (m key) := run_get wired fun _ leaf => ih.agree leaf
    have same : stateAfter (s.get key) w = w := by
      rw [stateAfter, run]
      cases m key <;> rfl
    rw [same]
    exact ih
  | @del w m key before ih =>
    obtain ⟨w', run, wrote⟩ := writes_del wired key w
    rw [stateAfter_ok run]
    exact ih.wrote apart wrote
  | @keys w m τ visit t before all outside ih =>
    obtain ⟨keys, ending, stop, course, run, clean, -⟩ :=
      showsHeld wired (placed.priv all rfl) (apart all) visit w t (ih.clean all) outside
    rw [Ending.stateAfter_of_run run]
    refine ih.kept (leaves_kept ⟨id, id, id⟩ (apart all) outside course) clean

end Runs

namespace Resolver

variable {r : Resolver} {bootstrap : Store} {records : SortedMap Bytes Bytes}
  {keep : World → Prop} {entry : Bytes} {s : Store} {w start : World}

/-- What a resolver built is placed in new cells. -/
theorem resolve_placed (backed : OverMemory r bootstrap records keep entry) (kept : keep w)
    (resolved : (r.resolve entry bootstrap).run w = .ok s start) :
    Placed (r.NoDedups records entry) (· = s) start ∧ r.Shaped records entry s := by
  have laid : r.Laid records keep (r.NoDedups records entry) .empty w :=
    ⟨kept, (Placed.none w).mono (by rintro s ⟨id, found⟩; cases found), nofun⟩
  obtain ⟨built, laid', found⟩ := resolve_constructs (laid_constructs backed id) laid resolved
  refine ⟨laid'.placed.mono ?_, laid'.shaped entry _ found⟩
  rintro _ rfl
  exact ⟨entry, found⟩

/-- Every graph that is resolved over memory backends is one map. Writing and deleting succeed and
    reading answers what was put last, also after enumerations where no record names a dedup store;
    an enumeration then shows exactly the keys of the map, and each of them once if the record that
    was resolved is redundant. -/
theorem resolved_graph_is_map (backed : OverMemory r bootstrap records keep entry) (kept : keep w)
    (resolved : (r.resolve entry bootstrap).run w = .ok s start) {now : World}
    {m : Bytes → Option Bytes} (reached : Reached (r.NoDedups records entry) s start now m) :
    (∀ key value, ∃ w', (s.put key value).run now = .ok () w') ∧
      (∀ key, ∃ w', (s.del key).run now = .ok () w') ∧
      (∀ key, (s.get key).run now = match m key with
        | some value => .ok value now
        | none => .error .notFound now) ∧
      (r.NoDedups records entry → ∀ {τ : Type} (visit : Bytes → VisitM τ Unit) (t : τ),
        (∀ key, Leaves (of s).Outside (visit key)) →
          ∃ keys ending stop, Shows (of s).Quiet visit (now, t) keys ending stop ∧
            (s.keys visit).run (now, t) = ending.result stop ∧
            Reports (fun key => m key ≠ none) keys ending ∧
            ((∃ record, r.described records entry = some (.redundant record)) → keys.Nodup)) := by
  obtain ⟨placed, shaped⟩ := resolve_placed backed kept resolved
  have represents := reached.represents placed
  have wired : Wired s := placed.wired rfl
  refine ⟨?_, ?_, ?_, ?_⟩
  · intro key value
    obtain ⟨w', run, -⟩ := writes_put wired key value now
    exact ⟨w', run⟩
  · intro key
    obtain ⟨w', run, -⟩ := writes_del wired key now
    exact ⟨w', run⟩
  · exact fun key => run_get wired fun _ leaf => represents.agree leaf
  · intro all τ visit t outside
    have apart : (of s).Apart := fun cell marks leaf => placed.apart all rfl rfl marks leaf
    obtain ⟨keys, ending, stop, course, run, -, reports, once⟩ :=
      showsHeld wired (placed.priv all rfl) apart visit now t (represents.clean all) outside
    refine ⟨keys, ending, stop, course, run, ⟨reports.unfailing, ?_, ?_⟩, ?_⟩
    · exact fun key member => (represents.holds_iff wired key).mp (reports.sound key member)
    · exact fun ended key live =>
        reports.whole ended key ((represents.holds_iff wired key).mpr live)
    · exact fun ⟨record, found⟩ => once (shaped record found)

/-- A resolver for which the empty record is a memory backend, and any other record is kept twice in
    the store `leaf`. -/
def twinResolver : Resolver where
  registry := .withDefaults
  decoder
    | [] => .ok (Record.simple "memory://").toJson
    | _ => .ok (Record.redundant { storages := ["leaf", "leaf"] }).toJson

def twinRecords : SortedMap Bytes Bytes :=
  (SortedMap.empty.insert (Bytes.ofText "main") [1]).insert (Bytes.ofText "leaf") []

def twinWorld : World where
  randomness _ := 0
  memories := { cells := SortedMap.empty.insert 0 { entries := twinRecords }, next := 1 }

theorem overMemory_twin :
    OverMemory twinResolver (.memory ⟨0⟩) twinRecords (Recorded ⟨0⟩ twinRecords)
        (Bytes.ofText "main") ∧
      twinResolver.NoDedups twinRecords (Bytes.ofText "main") := by
  have main : twinResolver.described twinRecords (Bytes.ofText "main") =
      some (.redundant { storages := ["leaf", "leaf"] }) := by rfl
  have leaf : twinResolver.described twinRecords (Bytes.ofText "leaf") =
      some (.simple "memory://") := by rfl
  have only : ∀ id, twinResolver.Reaches twinRecords (Bytes.ofText "main") id →
      id = Bytes.ofText "main" ∨ id = Bytes.ofText "leaf" := by
    intro id path
    induction path with
    | refl => exact .inl rfl
    | tail _ step ih =>
      obtain ⟨record, found, member⟩ := step
      obtain rfl | rfl := ih
      · rw [main] at found
        cases found
        exact .inr (by simpa [Record.references, RedundantRecord.dedupRef?] using member)
      · rw [leaf] at found
        cases found
        exact absurd member List.not_mem_nil
  refine ⟨overMemory_recorded rfl ?_, ?_⟩
  · intro id url path found
    obtain rfl | rfl := only id path
    · rw [main] at found
      cases found
    · rw [leaf] at found
      cases found
      exact ⟨_, by rfl, rfl⟩
  · intro id record path found
    obtain rfl | rfl := only id path
    · rw [main] at found
      cases found
      rfl
    · rw [leaf] at found
      cases found

theorem resolved_graph_is_map_twin :
    ∃ s start now, (twinResolver.resolve (Bytes.ofText "main") (.memory ⟨0⟩)).run twinWorld =
        .ok s start ∧
      (s.put [7] [8]).run start = .ok () now ∧ (s.get [7]).run now = .ok [8] now ∧
      ∃ (keys : List Bytes) (ending : Ending) (stop : World × Unit),
        (s.keys fun _ => pure ()).run (now, ()) = ending.result stop ∧
        (∀ key ∈ keys, key = [7]) ∧ keys.Nodup := by
  obtain ⟨s, start, resolved⟩ : ∃ s start,
      (twinResolver.resolve (Bytes.ofText "main") (.memory ⟨0⟩)).run twinWorld = .ok s start :=
    ⟨_, _, by rfl⟩
  obtain ⟨backed, free⟩ := overMemory_twin
  have recorded : Recorded ⟨0⟩ twinRecords twinWorld := ⟨rfl, Nat.one_pos⟩
  obtain ⟨now, put⟩ := (resolved_graph_is_map backed recorded resolved .fresh).1 [7] [8]
  have reached : Reached (twinResolver.NoDedups twinRecords (Bytes.ofText "main")) s start
      (stateAfter (s.put [7] [8]) start) _ := .put [7] [8] .fresh
  rw [stateAfter_ok put] at reached
  obtain ⟨-, -, gets, shows⟩ := resolved_graph_is_map backed recorded resolved reached
  obtain ⟨keys, ending, stop, -, run, reports, once⟩ :=
    shows free (fun _ => pure ()) () fun _ _ => .refl _
  refine ⟨s, start, now, resolved, put, gets [7], keys, ending, stop, run, ?_, ?_⟩
  · intro key shown
    by_contra other
    apply reports.sound key shown
    rw [Function.update_of_ne other]
  · exact once ⟨_, by rfl⟩

end Resolver

end StoreGraph
