import StoreGraph.Proofs.Frame
import StoreGraph.Proofs.Graph.Keys

/-! # Where enumerations remember keys

A redundant store remembers the keys that it has shown in a dedup store, which may be any store. The
leaves of the dedup stores are scratch: an enumeration changes what they hold, and of all other
memory cells nothing (`scratch_bounds_keys`). It is only assumed that dedup stores can be written
to, not that they are distinct from each other or from the stores that hold data.
-/

namespace StoreGraph.Store

/-- The store itself, and the stores over which its data are spread. -/
inductive Spans : Store → Store → Prop where
  | refl (s) : Spans s s
  | sharded {pool stock s s'} (member : s ∈ stock) (below : Spans s s') :
      Spans (.sharded pool stock) s'
  | redundant {policy backs dedup offload s s'} (member : s ∈ backs) (below : Spans s s') :
      Spans (.redundant policy backs dedup offload) s'

/-- A redundant store, the store itself or one below it, has the dedup store and the token. -/
def Remembers (s : Store) (token : Ref .token) (offload : Store) : Prop :=
  ∃ policy backs, Spans s (.redundant policy backs (.offloaded token) offload)

/-- Every dedup works by epochs, in a store that can be written to. -/
def Served (s : Store) : Prop :=
  ∀ {policy backs dedup offload}, Spans s (.redundant policy backs dedup offload) →
    (∃ token, dedup = .offloaded token) ∧ offload.Wired

/-- The memory cells in which a store remembers keys. -/
def Scratch (s : Store) (cell : Ref .memory) : Prop :=
  ∃ token offload, Remembers s token offload ∧ Leaf offload cell

theorem leaf_iff_spans {s : Store} {cell : Ref .memory} : Leaf s cell ↔ Spans s (.memory cell) := by
  constructor
  · intro leaf
    induction leaf with
    | memory => exact .refl _
    | sharded member _ ih => exact .sharded member ih
    | redundant member _ ih => exact .redundant member ih
  · intro spans
    generalize reached : Store.memory cell = s' at spans
    induction spans with
    | refl s =>
      subst reached
      exact .memory
    | sharded member _ ih => exact .sharded member (ih reached)
    | redundant member _ ih => exact .redundant member (ih reached)

section Shards

variable {pool : ShardPool} {stock : List Store} {s : Store} {token : Ref .token} {offload : Store}

theorem Remembers.sharded (member : s ∈ stock) (h : Remembers s token offload) :
    Remembers (.sharded pool stock) token offload := by
  obtain ⟨policy, backs, spans⟩ := h
  exact ⟨policy, backs, .sharded member spans⟩

theorem Served.shard (served : Served (.sharded pool stock)) (member : s ∈ stock) : Served s :=
  fun spans => served (.sharded member spans)

end Shards

section Copies

variable {policy : ReplicaPolicy} {backs : List Store} {dedup : DedupScheme} {offload : Store}
  {s : Store}

theorem Remembers.copy {token : Ref .token} {offload' : Store} (member : s ∈ backs)
    (h : Remembers s token offload') :
    Remembers (.redundant policy backs dedup offload) token offload' := by
  obtain ⟨policy', backs', spans⟩ := h
  exact ⟨policy', backs', .redundant member spans⟩

theorem Remembers.own {token : Ref .token} :
    Remembers (.redundant policy backs (.offloaded token) offload) token offload :=
  ⟨policy, backs, .refl _⟩

theorem Served.copy (served : Served (.redundant policy backs dedup offload)) (member : s ∈ backs) :
    Served s :=
  fun spans => served (.redundant member spans)

end Copies

/-! ## Dedup stores in use -/

section Offload

variable {R : World → World → Prop} {offload : Store} {token : Ref .token}

/-- A read answers what one of the leaves holds to which the key belongs, or that the key is absent,
    and changes nothing. The leaves need not agree. -/
theorem run_get_any {s : Store} (wired : Wired s) (key : Bytes) (w : World) :
    ∃ found, (s.get key).run w = answer w found ∧
      ∀ value ∈ found, ∃ cell, LeafFor key s cell ∧ (w.entries cell).get? key = some value := by
  induction wired with
  | memory cell =>
    refine ⟨(w.entries cell).get? key, ?_, fun value held => ⟨cell, .memory, held⟩⟩
    rw [get, storage, Storage.run_memory_get]
    cases (w.entries cell).get? key <;> rfl
  | @sharded pool stock ready count some below ih =>
    obtain ⟨s, owns, member⟩ := owner_spec count some key
    obtain ⟨found, run, held⟩ := ih s member
    refine ⟨found, ?_, ?_⟩
    · rw [run_get_sharded ready owns]
      exact run
    · intro value shown
      obtain ⟨cell, leaf, held⟩ := held value shown
      exact ⟨cell, .sharded owns leaf, held⟩
  | @redundant demand backs dedup offload some few below ih =>
    have first : ∀ failures : List Error, (∀ e ∈ failures, e.isNotFound = true) →
        ∀ stores : List Store, (∀ s ∈ stores, s ∈ backs) → ∃ found,
        (firstHitAfter failures (stores.map (·.get key))).run w = answer w found ∧
        ∀ value ∈ found, ∃ cell, (∃ s ∈ backs, LeafFor key s cell) ∧
          (w.entries cell).get? key = .some value := by
      intro failures before stores within
      induction stores generalizing failures with
      | nil =>
        refine ⟨none, run_firstHitAfter_none before (List.forall_mem_nil _), fun value shown => ?_⟩
        cases shown
      | cons s rest further =>
        have member := within s List.mem_cons_self
        obtain ⟨found, run, held⟩ := ih s member
        simp only [List.map_cons, firstHitAfter, EStateM.run_bind, run_attempt, run]
        cases found with
        | some value =>
          refine ⟨.some value, rfl, ?_⟩
          intro value shown
          obtain ⟨cell, leaf, held⟩ := held value shown
          exact ⟨cell, ⟨s, member, leaf⟩, held⟩
        | none =>
          refine further (failures ++ [.notFound]) ?_ fun s member =>
            within s (List.mem_cons_of_mem _ member)
          intro e member
          obtain member | member := List.mem_append.mp member
          · exact before e member
          · rw [List.mem_singleton.mp member]
            rfl
    obtain ⟨found, run, held⟩ := first [] (List.forall_mem_nil _) backs fun _ member => member
    refine ⟨found, ?_, ?_⟩
    · rw [get_redundant]
      exact run
    · intro value shown
      obtain ⟨cell, ⟨s, member, leaf⟩, held⟩ := held value shown
      exact ⟨cell, .redundant member leaf, held⟩

theorem reads_nothing {s : Store} (wired : Wired s) (key : Bytes) (w : World) :
    stateAfter (s.get key) w = w := by
  obtain ⟨found, run, -⟩ := run_get_any wired key w
  rw [stateAfter, run]
  cases found <;> rfl

/-- What using a dedup store changes is bounded by a relation. -/
structure Bears (R : World → World → Prop) (token : Ref .token) (offload : Store) : Prop where
  saves : ∀ key, Moves R (DedupScheme.save offload.storage key (.offloaded token))
  clears : Moves R (DedupScheme.clear offload.storage (.offloaded token))
  resets : Moves R (DedupScheme.reset (.offloaded token))

theorem moves_isSaved (frame : Frame R) (wired : Wired offload) (key : Bytes) :
    Moves R (DedupScheme.isSaved offload.storage key (.offloaded token)) := by
  have reads : Moves R (offload.storage.get key) := by
    intro w
    rw [show stateAfter (offload.storage.get key) w = w from reads_nothing wired key w]
    exact frame.refl w
  refine .bind frame (.find frame reads) fun found => ?_
  cases found with
  | none => exact .pure frame _
  | some marker => exact .bind frame (frame.refl ·) fun current => .pure frame _

variable {τ : Type} {visit : Bytes → VisitM τ Unit}

theorem leaves_visitOnce_offload (frame : Frame R) (wired : Wired offload)
    (bears : Bears R token offload) (visits : ∀ key, Leaves R (visit key)) (key : Bytes) :
    Leaves R (Storage.visitOnce offload.storage (.offloaded token) visit key) := by
  unfold Storage.visitOnce
  have shows : Leaves R (do
      if ← StoreM.visiting (DedupScheme.isSaved offload.storage key (.offloaded token)) then return
      StoreM.visiting (DedupScheme.save offload.storage key (.offloaded token))
      VisitM.besides (visit key) : VisitM (τ × Bool) Unit) := by
    refine Moves.bind frame.world (Moves.visiting (moves_isSaved frame wired key)) fun saved => ?_
    cases saved with
    | true => exact Moves.pure frame.world ()
    | false =>
      exact Moves.bind frame.world (Moves.visiting (bears.saves key)) fun _ =>
        Moves.besides (visits key)
  refine Moves.bind frame.world (Moves.attempt shows) fun outcome => ?_
  exact Moves.bind frame.world (Moves.note frame _) fun _ => Moves.ofExcept frame.world outcome

theorem leaves_sweep (frame : Frame R) {visit : Bytes → VisitM τ Unit}
    (once : ∀ key, Leaves R (Storage.visitOnce offload.storage (.offloaded token) visit key))
    {backs : List (String × Storage)}
    (each : ∀ back ∈ backs, ∀ visit : Bytes → VisitM (τ × Bool) Unit,
      (∀ key, Leaves R (visit key)) → Leaves R (back.2.keys visit)) :
    Leaves R (Storage.sweep offload.storage (.offloaded token) visit backs) := by
  induction backs with
  | nil => exact Moves.pure frame.world _
  | cons back rest ih =>
    have later := ih fun back member => each back (List.mem_cons_of_mem _ member)
    have first := each back List.mem_cons_self _ once
    refine Moves.bind frame.world (Moves.withState false first) fun outcome => ?_
    obtain ⟨_ | e, stopped⟩ := outcome
    · cases stopped with
      | true => exact Moves.pure frame.world _
      | false => exact Moves.bind frame.world later fun _ => Moves.pure frame.world _
    · exact later

end Offload

/-! ## Enumerations -/

section Keys

variable {R : World → World → Prop} {s : Store} {τ : Type}

theorem leaves_keys_redundant (frame : Frame R) {policy : ReplicaPolicy} {backs : List Store}
    {token : Ref .token} {offload : Store} (wired : Wired offload) (bears : Bears R token offload)
    (each : ∀ s ∈ backs, ∀ visit : Bytes → VisitM (τ × Bool) Unit,
      (∀ key, Leaves R (visit key)) → Leaves R (s.keys visit))
    {visit : Bytes → VisitM τ Unit} (visits : ∀ key, Leaves R (visit key)) :
    Leaves R ((Store.redundant policy backs (.offloaded token) offload).keys visit) := by
  have once := leaves_visitOnce_offload frame wired bears visits
  have swept : Leaves R (Storage.sweep offload.storage (.offloaded token) visit
      (numbered "keys of storage" (storages backs))) := by
    refine leaves_sweep frame once fun back named => ?_
    obtain ⟨⟨storage, index⟩, listed, rfl⟩ := List.mem_map.mp named
    have listed := List.fst_mem_of_mem_zipIdx listed
    rw [storages_eq_map] at listed
    obtain ⟨s, member, rfl⟩ := List.mem_map.mp listed
    exact each s member
  have cleared : Moves R (gatherFailures [("clear iteration dedup",
      DedupScheme.clear offload.storage (.offloaded token))]) :=
    .gatherFailures frame (List.forall_mem_singleton.mpr bears.clears)
  refine Moves.bind frame.world swept fun sweep => ?_
  refine Moves.bind frame.world (Moves.visiting cleared) fun failures => ?_
  refine Moves.bind frame.world (Moves.visiting bears.resets) fun _ => ?_
  cases sweep.stopped with
  | some e => exact Moves.throw frame.world e
  | none => exact Moves.ofExcept frame.world _

/-- An enumeration changes the world as its visitor does and as using the dedup stores does. -/
theorem leaves_keys (frame : Frame R) (wired : Wired s) (served : Served s)
    (bears : ∀ token offload, Remembers s token offload → Bears R token offload)
    {visit : Bytes → VisitM τ Unit} (visits : ∀ key, Leaves R (visit key)) :
    Leaves R (s.keys visit) := by
  induction wired generalizing τ with
  | memory cell =>
    refine Moves.bind frame.world (Moves.visiting (frame.refl ·)) fun snapshot => ?_
    exact Moves.forM frame.world fun key _ => visits key
  | @sharded pool stock ready count some below ih =>
    rintro ⟨w, t⟩
    have shards : Leaves R (stock.forM fun s => s.keys visit) :=
      Moves.forM frame.world fun s member =>
        ih s member (served.shard member)
          (fun token offload remembers => bears token offload (remembers.sharded member)) visits
    have bounded := shards (w, t)
    rw [stateAfter, ← run_iterate ready count] at bounded
    exact bounded
  | @redundant demand backs dedup offload some few below ih =>
    obtain ⟨⟨token, rfl⟩, wired⟩ := served (.refl _)
    refine leaves_keys_redundant frame wired (bears token offload .own) ?_ visits
    intro s member visit visits
    exact ih s member (served.copy member)
      (fun token offload remembers => bears token offload (remembers.copy member)) visits

/-- What a cell holds stays the same. -/
def SameEntries (cell : Ref .memory) (w w' : World) : Prop := w'.entries cell = w.entries cell

theorem bears_sameEntries {offload : Store} (wired : Wired offload) {cell : Ref .memory}
    (other : ¬ Leaf offload cell) (token : Ref .token) :
    Bears (SameEntries cell) token offload where
  saves key w := by
    let marker := Word.toBytes (w.tokens.get token)
    obtain ⟨w', run, wrote⟩ := writes_put wired key marker w
    have saved : stateAfter (DedupScheme.save offload.storage key (.offloaded token)) w = w' :=
      stateAfter_ok run
    rw [saved]
    apply SortedMap.ext_get?
    exact fun key' => wrote.kept cell key' fun leaf => other leaf.1.leaf
  clears w := by
    cases wired with
    | memory cell' =>
      have apart : cell ≠ cell' := by
        rintro rfl
        exact other .memory
      exact (World.entries_clear w cell' cell).trans (if_neg apart)
    | sharded => rfl
    | redundant => rfl
  resets _ := rfl

/-- An enumeration whose visitor leaves a cell alone changes the cell only if it is scratch. -/
theorem scratch_bounds_keys (wired : Wired s) (served : Served s) {cell : Ref .memory}
    (other : ¬ Scratch s cell) {visit : Bytes → VisitM τ Unit}
    (visits : ∀ key, Leaves (SameEntries cell) (visit key)) :
    Leaves (SameEntries cell) (s.keys visit) := by
  refine leaves_keys (frame_same _) wired served ?_ visits
  intro token offload remembers
  obtain ⟨policy, backs, spans⟩ := remembers
  have wired := (served spans).2
  exact bears_sameEntries wired (fun leaf => other ⟨token, offload, ⟨policy, backs, spans⟩, leaf⟩)
    token

end Keys

end StoreGraph.Store
