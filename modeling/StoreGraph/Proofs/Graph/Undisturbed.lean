import StoreGraph.Proofs.Graph.Described
import StoreGraph.Proofs.Graph.Map

/-! # Enumerating leaves values alone

Enumerating a resolved graph changes no value, provided that no dedup store that its records name
has a leaf in which the graph keeps its data (`DedupsApart`, `keys_leave_values`). A resolver does
not demand this: a record may name one of its own copies as its dedup store, and enumerating then
removes what was put (`keys_erase_values`).
-/

namespace StoreGraph

open Store

namespace Resolver

/-- No dedup store that is named by a record keeps anything in a leaf of the entry: no identifier of
    a dedup store leads to a simple record that the entry leads to. -/
def DedupsApart (r : Resolver) (records : SortedMap Bytes Bytes) (entry : Bytes) : Prop :=
  ∀ {id record name leaf url}, r.HeldBy records entry id →
    r.described records id = some (.redundant record) → record.dedupRef? = some name →
    r.HeldBy records (Bytes.ofText name) leaf → r.described records leaf = some (.simple url) →
    ¬ r.HeldBy records entry leaf

section Built

variable {r : Resolver} {bootstrap : Store} {records : SortedMap Bytes Bytes}
  {keep : World → Prop} {entry : Bytes} {built : Built} {s : Store} {w start : World}

/-- What a resolver built, with all that is known of it. -/
theorem resolve_accords (backed : OverMemory r bootstrap records keep entry) (kept : keep w)
    (resolved : (r.resolve entry bootstrap).run w = .ok s start) :
    ∃ built, r.Accords records built start ∧ Placed False (Among built) start ∧
      built.get? entry = some s := by
  have placed : Placed False (Among .empty) w :=
    (Placed.none w).mono (by rintro s ⟨id, found⟩; cases found)
  have lays : Constructs r bootstrap records entry (r.Laid records keep False) :=
    laid_constructs backed nofun
  obtain ⟨built, ⟨⟨-, accords⟩, laid⟩, found⟩ := resolve_constructs
    ((accords_constructs backed).and lays) ⟨⟨kept, .empty w⟩, kept, placed, nofun⟩ resolved
  exact ⟨built, accords, laid.placed, found⟩

theorem served_of_built (accords : r.Accords records built w)
    (placed : Placed False (Among built) w) {id : Bytes} (found : built.get? id = some s) :
    Served s := by
  intro policy backs dedup offload spans
  obtain ⟨id', -, found'⟩ := spans_described accords found spans
  cases accords.describes found' with
  | @redundant record policy backs token offload described below named unnamed =>
    refine ⟨⟨token, rfl⟩, ?_⟩
    cases dedup : record.dedupRef? with
    | none =>
      obtain ⟨cell, rfl⟩ := unnamed dedup
      exact .memory cell
    | some name => exact placed.wired ⟨_, named name dedup⟩

/-- Nothing is remembered in a leaf. -/
theorem DedupsApart.scratch (apart : r.DedupsApart records entry)
    (accords : r.Accords records built w) (found : built.get? entry = some s) {cell : Ref .memory}
    (scratch : Scratch s cell) : ¬ Leaf s cell := by
  obtain ⟨token, offload, ⟨policy, backs, spans⟩, marks⟩ := scratch
  obtain ⟨id, path, found'⟩ := spans_described accords found spans
  cases accords.describes found' with
  | @redundant record policy backs token offload described below named unnamed =>
    cases dedup : record.dedupRef? with
    | none => exact unnamed_apart accords found' described dedup found marks
    | some name =>
      intro leaf
      obtain ⟨ref, url, led, led', simple⟩ :=
        shared_leaf accords (named name dedup) found marks leaf
      exact apart path described dedup led simple led'

end Built

end Resolver

/-- The leaves hold what they held. -/
def SameData (s : Store) (w w' : World) : Prop := ∀ cell, Leaf s cell → SameEntries cell w w'

/-- The worlds that a run of operations on a store leads to, and the map that the run amounts to.
    Visitors change the world within the given bounds. -/
inductive Used (bounds : World → World → Prop) (s : Store) (start : World) :
    World → (Bytes → Option Bytes) → Prop where
  | fresh : Used bounds s start start fun _ => none
  | put {w m} (key value : Bytes) (before : Used bounds s start w m) :
      Used bounds s start (stateAfter (s.put key value) w) (Function.update m key (some value))
  | get {w m} (key : Bytes) (before : Used bounds s start w m) :
      Used bounds s start (stateAfter (s.get key) w) m
  | del {w m} (key : Bytes) (before : Used bounds s start w m) :
      Used bounds s start (stateAfter (s.del key) w) (Function.update m key none)
  | keys {w m} {τ : Type} {visit : Bytes → VisitM τ Unit} {t : τ}
      (before : Used bounds s start w m) (visits : ∀ key, Leaves bounds (visit key)) :
      Used bounds s start (stateAfter (s.keys visit) (w, t)).1 m

section Runs

variable {bounds : World → World → Prop} {s : Store} {start now w w' : World}
  {m : Bytes → Option Bytes}

theorem Represents.sameData (h : Represents False s w m) (same : SameData s w w') :
    Represents False s w' m where
  agree {key cell} leaf := by
    rw [same cell leaf.leaf]
    exact h.agree leaf
  routed {key cell} leaf held := by
    rw [same cell leaf] at held
    exact h.routed leaf held
  clean := nofun

theorem sameData_keys (wired : Wired s) (served : Served s)
    (apart : ∀ {cell}, Scratch s cell → ¬ Leaf s cell) {τ : Type} {visit : Bytes → VisitM τ Unit}
    (visits : ∀ key, Leaves (SameData s) (visit key)) : Leaves (SameData s) (s.keys visit) :=
  fun state cell leaf =>
    scratch_bounds_keys wired served (fun scratch => apart scratch leaf)
      (fun key state => visits key state cell leaf) state

theorem Used.represents (wired : Wired s) (served : Served s)
    (apart : ∀ {cell}, Scratch s cell → ¬ Leaf s cell)
    (spares : ∀ w w', bounds w w' → SameData s w w')
    (fresh : Represents False s start fun _ => none) (used : Used bounds s start now m) :
    Represents False s now m := by
  induction used with
  | fresh => exact fresh
  | @put w m key value before ih =>
    obtain ⟨w', run, wrote⟩ := writes_put wired key value w
    rw [stateAfter_ok run]
    exact ih.wrote nofun wrote
  | @get w m key before ih =>
    rw [reads_nothing wired key w]
    exact ih
  | @del w m key before ih =>
    obtain ⟨w', run, wrote⟩ := writes_del wired key w
    rw [stateAfter_ok run]
    exact ih.wrote nofun wrote
  | @keys w m τ visit t before visits ih =>
    exact ih.sameData (sameData_keys wired served apart
      (fun key state => spares _ _ (visits key state)) (w, t))

end Runs

namespace Resolver

variable {r : Resolver} {bootstrap : Store} {records : SortedMap Bytes Bytes}
  {keep : World → Prop} {entry : Bytes} {s : Store} {w start now : World}
  {m : Bytes → Option Bytes}

/-- Enumerating the keys of a graph changes nothing that can be read from it, if no dedup store has
    a leaf that holds data: after any run, every key is answered as before, and as it was put last.
    The visitor may do anything but write to the leaves. -/
theorem keys_leave_values (backed : OverMemory r bootstrap records keep entry) (kept : keep w)
    (resolved : (r.resolve entry bootstrap).run w = .ok s start)
    (apart : r.DedupsApart records entry) (used : Used (SameData s) s start now m) {τ : Type}
    (visit : Bytes → VisitM τ Unit) (t : τ) (visits : ∀ key, Leaves (SameData s) (visit key)) :
    let after := (stateAfter (s.keys visit) (now, t)).1
    SameData s now after ∧
      ∀ key, (s.get key).run now = answer now (m key) ∧
        (s.get key).run after = answer after (m key) := by
  intro after
  obtain ⟨built, accords, placed, found⟩ := resolve_accords backed kept resolved
  have wired : Wired s := placed.wired ⟨entry, found⟩
  have served : Served s := served_of_built accords placed found
  have spared : ∀ {cell}, Scratch s cell → ¬ Leaf s cell := apart.scratch accords found
  have fresh : Represents False s start fun _ => none :=
    .fresh (placed.mono (by rintro _ rfl; exact ⟨entry, found⟩))
  have before := used.represents wired served spared (fun _ _ same => same) fresh
  have same : SameData s now after := sameData_keys wired served spared visits (now, t)
  refine ⟨same, fun key => ⟨?_, ?_⟩⟩
  · exact run_get wired fun _ leaf => before.agree leaf
  · exact run_get wired fun _ leaf => (before.sameData same).agree leaf

/-- A resolver for which the empty record is a memory backend, and any other record is kept in the
    store `leaf`, with shown keys remembered in the store of a given name. -/
def dedupResolver (name : String) : Resolver where
  registry := .withDefaults
  decoder
    | [] => .ok (Record.simple "memory://").toJson
    | _ => .ok (Record.redundant { storages := ["leaf"], dedup := some name }).toJson

def dedupRecords : SortedMap Bytes Bytes :=
  ((SortedMap.empty.insert (Bytes.ofText "main") [1]).insert (Bytes.ofText "leaf") []).insert
    (Bytes.ofText "marks") []

def dedupWorld : World where
  randomness _ := 0
  memories := { cells := SortedMap.empty.insert 0 { entries := dedupRecords }, next := 1 }

theorem described_dedup (name : String) :
    (dedupResolver name).described dedupRecords (Bytes.ofText "main") =
        some (.redundant { storages := ["leaf"], dedup := some name }) ∧
      (dedupResolver name).described dedupRecords (Bytes.ofText "leaf") =
        some (.simple "memory://") ∧
      (dedupResolver name).described dedupRecords (Bytes.ofText "marks") =
        some (.simple "memory://") := ⟨by rfl, by rfl, by rfl⟩

/-- With its dedup store among its copies, a redundant store loses what was put when its keys are
    enumerated. -/
theorem keys_erase_values :
    ∃ s start now, ((dedupResolver "leaf").resolve (Bytes.ofText "main") (.memory ⟨0⟩)).run
        dedupWorld = .ok s start ∧
      (s.put [7] [8]).run start = .ok () now ∧ (s.get [7]).run now = .ok [8] now ∧
      ∃ after, (s.keys fun _ => (pure () : VisitM Unit Unit)).run (now, ()) = .ok () (after, ()) ∧
        (s.get [7]).run after = .error .notFound after :=
  ⟨_, _, _, by rfl, by rfl, by rfl, _, by rfl, by rfl⟩

theorem dedupsApart_marks :
    (dedupResolver "marks").DedupsApart dedupRecords (Bytes.ofText "main") := by
  obtain ⟨main, leaf, marks⟩ := described_dedup "marks"
  have data : ∀ id, (dedupResolver "marks").HeldBy dedupRecords (Bytes.ofText "main") id →
      id = Bytes.ofText "main" ∨ id = Bytes.ofText "leaf" := by
    intro id path
    induction path with
    | refl => exact .inl rfl
    | tail _ step ih =>
      obtain ⟨record, found, member⟩ := step
      obtain rfl | rfl := ih
      · rw [main] at found
        cases found
        exact .inr (by simpa [Record.holders] using member)
      · rw [leaf] at found
        cases found
        exact absurd member List.not_mem_nil
  intro id record name ref url path found named led simple path'
  obtain rfl | rfl := data id path
  · rw [main] at found
    cases found
    cases named
    obtain rfl := led.eq_of_simple marks
    obtain same | same := data _ path'
    · exact absurd same (by decide)
    · exact absurd same (by decide)
  · rw [leaf] at found
    cases found

theorem overMemory_marks :
    OverMemory (dedupResolver "marks") (.memory ⟨0⟩) dedupRecords (Recorded ⟨0⟩ dedupRecords)
      (Bytes.ofText "main") := by
  obtain ⟨main, leaf, marks⟩ := described_dedup "marks"
  have references : (Record.redundant { storages := ["leaf"], dedup := some "marks" }).references =
      [Bytes.ofText "leaf", Bytes.ofText "marks"] := by rfl
  have only : ∀ id, (dedupResolver "marks").Reaches dedupRecords (Bytes.ofText "main") id →
      id = Bytes.ofText "main" ∨
        (dedupResolver "marks").described dedupRecords id = some (.simple "memory://") := by
    intro id path
    induction path with
    | refl => exact .inl rfl
    | tail _ step ih =>
      obtain ⟨record, found, member⟩ := step
      obtain rfl | simple := ih
      · rw [main] at found
        cases found
        rw [references, List.mem_cons, List.mem_singleton] at member
        obtain rfl | rfl := member
        · exact .inr leaf
        · exact .inr marks
      · rw [simple] at found
        cases found
        exact absurd member List.not_mem_nil
  refine overMemory_recorded rfl ?_
  intro id url path found
  obtain rfl | simple := only id path
  · rw [main] at found
    cases found
  · rw [simple] at found
    cases found
    exact ⟨_, by rfl, rfl⟩

theorem keys_leave_values_marks :
    ∃ s start now, ((dedupResolver "marks").resolve (Bytes.ofText "main") (.memory ⟨0⟩)).run
        dedupWorld = .ok s start ∧
      (s.put [7] [8]).run start = .ok () now ∧ (s.get [7]).run now = .ok [8] now ∧
      let after := (stateAfter (s.keys fun _ => (pure () : VisitM Unit Unit)) (now, ())).1
      (s.get [7]).run after = .ok [8] after := by
  obtain ⟨s, start, now, resolved, put⟩ : ∃ s start now,
      ((dedupResolver "marks").resolve (Bytes.ofText "main") (.memory ⟨0⟩)).run dedupWorld =
        .ok s start ∧ (s.put [7] [8]).run start = .ok () now :=
    ⟨_, _, _, by rfl, by rfl⟩
  have recorded : Recorded ⟨0⟩ dedupRecords dedupWorld := ⟨rfl, Nat.one_pos⟩
  have used : Used (SameData s) s start (stateAfter (s.put [7] [8]) start) _ := .put [7] [8] .fresh
  rw [stateAfter_ok put] at used
  obtain ⟨-, answers⟩ := keys_leave_values overMemory_marks recorded resolved dedupsApart_marks used
    (fun _ => (pure () : VisitM Unit Unit)) () fun _ _ _ _ => rfl
  exact ⟨s, start, now, resolved, put, answers [7]⟩

end Resolver

end StoreGraph
