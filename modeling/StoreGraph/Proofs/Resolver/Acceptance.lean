import StoreGraph.Proofs.Resolver.Walk

/-! # Which graphs are accepted

A resolver answers with a store exactly if all that the entry reaches is described soundly and
nothing of it reaches itself (`resolve_accepts`). The bound on the depth of the walk never decides:
any larger bound gives the same outcome.
-/

namespace StoreGraph.Resolver

section Acceptance

variable {r : Resolver} {bootstrap : Store} {records : SortedMap Bytes Bytes}
  {creatable : String → Prop} {keep : World → Prop} {w : World}

theorem run_run' {σ α : Type} (x : StateT Built (EStateM Error σ) α) (built : Built) (s : σ) :
    (x.run' built).run s = match (x.run built).run s with
      | .ok result s' => .ok result.1 s'
      | .error e s' => .error e s' := by
  change (x.run built >>= fun result => pure result.1).run s = _
  rw [EStateM.run_bind]
  cases (x.run built).run s <;> rfl

theorem run_resolve (entry : Bytes) (w : World) :
    (r.resolve entry bootstrap).run w =
      ((r.node bootstrap (w.entryCount + 2) [] entry).run' .empty).run w := by
  have current : (getThe World : StoreM World).run w = .ok w w := rfl
  rw [run_run', resolve, EStateM.run_bind, current]
  dsimp only
  rw [EStateM.run_bind]
  cases ((r.node bootstrap (w.entryCount + 2) [] entry).run .empty).run w <;> rfl

/-- The outcome of a resolution, for any bound on the depth from the number of entries on. -/
theorem resolve_outcome (steady : Steady r bootstrap records creatable keep) (kept : keep w)
    (entry : Bytes) {fuel : Nat} (enough : w.entryCount + 2 ≤ fuel) :
    ((r.node bootstrap fuel [] entry).run' .empty).run w = (r.resolve entry bootstrap).run w ∧
      match (r.resolve entry bootstrap).run w with
      | .ok _ _ => r.Buildable records creatable entry
      | .error e _ => Blames r records creatable keep entry e := by
  have housed := steady.housed kept
  have sofar : r.Sofar records creatable keep .empty w := ⟨kept, nofun⟩
  have bound : records.entries.length < w.entryCount + 2 := by omega
  have walk : Builds r records creatable keep (r.node bootstrap (w.entryCount + 2) [] entry)
      (r.node bootstrap fuel [] entry) entry .empty w :=
    node_alike steady List.nodup_nil nofun nofun bound (Nat.lt_of_lt_of_le bound enough) sofar
  obtain ⟨same, outcome⟩ := walk
  rw [run_resolve, run_run', run_run', ← same]
  refine ⟨rfl, ?_⟩
  cases ran : ((r.node bootstrap (w.entryCount + 2) [] entry).run .empty).run w with
  | ok result w' =>
    rw [ran] at outcome
    exact outcome.2
  | error e w' =>
    rw [ran] at outcome
    exact outcome.2

/-- A resolution ends, with a store exactly if the graph below the entry is well-formed. The bound
    on the depth never decides. If a cycle is all that is wrong, the failure reports it, and without
    a cycle no failure of the resolver's own reports one. -/
theorem resolve_accepts (steady : Steady r bootstrap records creatable keep) (kept : keep w)
    (entry : Bytes) :
    (∀ fuel, w.entryCount + 2 ≤ fuel →
      ((r.node bootstrap fuel [] entry).run' .empty).run w =
        (r.resolve entry bootstrap).run w) ∧
    ((∃ store w', (r.resolve entry bootstrap).run w = .ok store w') ↔
      (∀ id, r.Reaches records entry id → r.SoundAt records creatable id) ∧
        ∀ id, r.Reaches records entry id → ¬ r.Cyclic records id) ∧
    ((∀ id, r.Reaches records entry id → r.SoundAt records creatable id) →
      (∃ id, r.Reaches records entry id ∧ r.Cyclic records id) →
        ∃ e w', (r.resolve entry bootstrap).run w = .error e w' ∧ e.IsCycle) ∧
    ((∀ id, r.Reaches records entry id → ¬ r.Cyclic records id) →
      ∀ e w', (r.resolve entry bootstrap).run w = .error e w' → e.IsCycle →
        r.ReportsCycle keep) := by
  refine ⟨fun fuel enough => (resolve_outcome steady kept entry enough).1, ?_⟩
  have outcome := (resolve_outcome steady kept entry (Nat.le_refl _)).2
  cases ran : (r.resolve entry bootstrap).run w with
  | ok store w' =>
    rw [ran] at outcome
    refine ⟨⟨fun _ => ⟨?_, ?_⟩, fun _ => ⟨store, w', rfl⟩⟩, ?_, nofun⟩
    · exact fun id path => (outcome.reaches path).soundAt
    · exact fun id path => (outcome.reaches path).acyclic
    · rintro - ⟨id, path, cyclic⟩
      exact absurd cyclic (outcome.reaches path).acyclic
  | error e w' =>
    rw [ran] at outcome
    refine ⟨⟨nofun, ?_⟩, ?_, ?_⟩
    · intro wellFormed
      obtain ⟨sound, acyclic⟩ := wellFormed
      cases outcome with
      | cycle path cyclic reported => exact absurd cyclic (acyclic _ path)
      | fault path unsound plain => exact absurd (sound _ path) unsound
    · rintro sound -
      cases outcome with
      | cycle path cyclic reported => exact ⟨e, w', rfl, reported⟩
      | fault path unsound plain => exact absurd (sound _ path) unsound
    · rintro acyclic e' w'' ⟨⟩ reported
      cases outcome with
      | cycle path cyclic _ => exact absurd cyclic (acyclic _ path)
      | fault path unsound plain => exact plain reported

end Acceptance

/-! ## Records in a memory cell -/

/-- The cell was taken and holds the records. -/
structure Recorded (cell : Ref .memory) (records : SortedMap Bytes Bytes) (w : World) : Prop where
  entries : w.entries cell = records
  taken : cell.index < w.memories.next

theorem entries_le_entryCount (w : World) (cell : Ref .memory) :
    (w.entries cell).entries.length ≤ w.entryCount := by
  unfold World.entries World.entryCount Table.get
  cases held : w.memories.cells.get? cell.index with
  | none => exact Nat.zero_le _
  | some m =>
    obtain ⟨before, after, split⟩ := List.append_of_mem (SortedMap.mem_entries_iff _ |>.mpr held)
    rw [split]
    simp only [Option.getD_some, List.flatMap_append, List.flatMap_cons, List.length_append]
    omega

theorem Recorded.withMemory {cell : Ref .memory} {records : SortedMap Bytes Bytes} {w : World}
    (h : Recorded cell records w) : Recorded cell records w.withMemory where
  entries := by
    rw [← h.entries, World.entries, World.entries, World.withMemory,
      Table.get_alloc_of_lt _ h.taken]
  taken := Nat.lt_succ_of_lt h.taken

theorem serves_memory (cell : Ref .memory) (records : SortedMap Bytes Bytes) :
    Serves (.memory cell) records (Recorded cell records) where
  found {w id raw} h stored := by
    refine ⟨w, h, ?_⟩
    rw [Store.get, Store.storage, Storage.run_memory_get, h.entries, stored]
  missing {w id} h absent := by
    refine ⟨.notFound, w, h, rfl, ?_⟩
    rw [Store.get, Store.storage, Storage.run_memory_get, h.entries, absent]
  reporting _ h := ⟨h.entries, h.taken⟩
  withMemory h := h.withMemory
  withPool h := ⟨h.entries, h.taken⟩
  withToken h := ⟨h.entries, h.taken⟩
  housed {w} h := by
    rw [← h.entries]
    exact entries_le_entryCount w cell

/-- A resolver for which every record is sharded over one store, `main`. -/
def selfResolver : Resolver where
  registry := .empty
  decoder _ := .ok (Record.sharded ["main"]).toJson

def selfRecord : SortedMap Bytes Bytes := SortedMap.empty.insert (Bytes.ofText "main") []

def selfWorld : World where
  randomness _ := 0
  memories := { cells := SortedMap.empty.insert 0 { entries := selfRecord }, next := 1 }

theorem resolve_accepts_no_self_reference :
    Recorded ⟨0⟩ selfRecord selfWorld ∧
      ∃ e w', (selfResolver.resolve (Bytes.ofText "main") (.memory ⟨0⟩)).run selfWorld =
        .error e w' ∧ e.IsCycle := by
  have recorded : Recorded ⟨0⟩ selfRecord selfWorld := ⟨rfl, Nat.one_pos⟩
  have described :
      selfResolver.described selfRecord (Bytes.ofText "main") = some (.sharded ["main"]) := by
    rfl
  have steady :
      Steady selfResolver (.memory ⟨0⟩) selfRecord (fun _ => False) (Recorded ⟨0⟩ selfRecord) := by
    refine ⟨serves_memory ⟨0⟩ selfRecord, nofun, ?_⟩
    intro w url kept _
    simp only [Registry.create]
    cases Url.parse url with
    | error fault => exact ⟨_, w, kept, rfl⟩
    | ok url => exact ⟨_, w, kept, rfl⟩
  have only : ∀ id, selfResolver.Reaches selfRecord (Bytes.ofText "main") id →
      id = Bytes.ofText "main" := by
    intro id path
    induction path with
    | refl => rfl
    | tail _ step ih =>
      subst ih
      obtain ⟨record, found, member⟩ := step
      rw [described] at found
      cases found
      simpa [Record.references] using member
  refine ⟨recorded, (resolve_accepts steady recorded (Bytes.ofText "main")).2.2.1 ?_ ?_⟩
  · intro id path
    rw [only id path]
    exact ⟨_, described, by simp [Record.Sound]⟩
  · exact ⟨_, .refl, .single ⟨_, described, by simp [Record.references]⟩⟩

end StoreGraph.Resolver
