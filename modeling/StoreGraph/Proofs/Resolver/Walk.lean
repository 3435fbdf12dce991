import StoreGraph.Proofs.Creation
import StoreGraph.Proofs.Resolver.Alike
import StoreGraph.Proofs.Resolver.Graph

/-! # The walk of a resolver

A resolver walks down a described graph, from a record to those it refers to. Every store that it
builds belongs to a buildable identifier, and a failure is due to a cycle that it reports or to a
record that is not sound (`Blames`). The same holds of the walk with another bound on its depth,
with the same outcome (`node_alike`): the identifiers that wait are recorded and differ from each
other, so there are never more of them than records.
-/

namespace StoreGraph.Resolver

/-- Making stores does not end what holds of the world. -/
structure Outlives (keep : World → Prop) : Prop where
  reporting : ∀ {w} event, keep w → keep (w.reporting event)
  withMemory : ∀ {w}, keep w → keep w.withMemory
  withPool : ∀ {w}, keep w → keep w.withPool
  withToken : ∀ {w}, keep w → keep w.withToken

/-- While `keep` holds of the world, a bootstrap store answers from the same records, and building
    stores does not end that. -/
structure Serves (bootstrap : Store) (records : SortedMap Bytes Bytes) (keep : World → Prop) :
    Prop extends Outlives keep where
  found : ∀ {w id raw}, keep w → records.get? id = some raw →
    ∃ w', keep w' ∧ (bootstrap.get id).run w = .ok raw w'
  missing : ∀ {w id}, keep w → records.get? id = none →
    ∃ e w', keep w' ∧ e.isNotFound = true ∧ (bootstrap.get id).run w = .error e w'
  /-- The records are kept in cells of the world. -/
  housed : ∀ {w}, keep w → records.entries.length ≤ w.entryCount

/-- The outcome of creating a backend depends on its URL alone, and the records stay. -/
structure Steady (r : Resolver) (bootstrap : Store) (records : SortedMap Bytes Bytes)
    (creatable : String → Prop) (keep : World → Prop) : Prop
    extends Serves bootstrap records keep where
  created : ∀ {w url}, keep w → creatable url →
    ∃ store w', keep w' ∧ (r.registry.create url).run w = .ok store w'
  refused : ∀ {w url}, keep w → ¬ creatable url →
    ∃ e w', keep w' ∧ (r.registry.create url).run w = .error e w'

/-- Does the decoder, or a backend that is created, report a cycle of its own? -/
def ReportsCycle (r : Resolver) (keep : World → Prop) : Prop :=
  (∃ raw e, r.decode raw = .error e ∧ e.IsCycle) ∨
    ∃ url w e w', keep w ∧ (r.registry.create url).run w = .error e w' ∧ e.IsCycle

/-- A failure to build the store of an identifier is due to something that the identifier reaches:
    to a cycle, which is reported as such, or to a record that is not sound. -/
inductive Blames (r : Resolver) (records : SortedMap Bytes Bytes) (creatable : String → Prop)
    (keep : World → Prop) (id : Bytes) (e : Error) : Prop where
  | cycle {id'} (path : r.Reaches records id id') (cyclic : r.Cyclic records id')
      (reported : e.IsCycle) : Blames r records creatable keep id e
  | fault {id'} (path : r.Reaches records id id') (unsound : ¬ r.SoundAt records creatable id')
      (plain : e.IsCycle → r.ReportsCycle keep) : Blames r records creatable keep id e

section Walk

variable {r : Resolver} {bootstrap : Store} {records : SortedMap Bytes Bytes}
  {creatable : String → Prop} {keep : World → Prop} {id ref : Bytes} {e : Error}
  {built : Built} {w : World} {node node' : Bytes → BuildM Store}

theorem Blames.of_context {doing : String} (h : Blames r records creatable keep ref e)
    (step : r.Refers records id ref) :
    Blames r records creatable keep id (.context doing e) := by
  cases h with
  | cycle path cyclic reported => exact .cycle (.head step path) cyclic reported
  | fault path unsound plain => exact .fault (.head step path) unsound plain

/-- What holds while stores are built: every store was built from sound records. -/
def Sofar (r : Resolver) (records : SortedMap Bytes Bytes) (creatable : String → Prop)
    (keep : World → Prop) (built : Built) (w : World) : Prop :=
  keep w ∧ ∀ id store, built.get? id = some store → r.Buildable records creatable id

/-- The outcome of building one store, run with either of two actions for the stores below. -/
def Builds (r : Resolver) (records : SortedMap Bytes Bytes) (creatable : String → Prop)
    (keep : World → Prop) (x y : BuildM Store) (id : Bytes) (built : Built) (w : World) : Prop :=
  Alike x y built w
    (fun _ built' w' => r.Sofar records creatable keep built' w' ∧ r.Buildable records creatable id)
    fun e w' => keep w' ∧ Blames r records creatable keep id e

/-- Building the stores below with `node` and with `node'` is alike. -/
def CallsAlike (r : Resolver) (records : SortedMap Bytes Bytes) (creatable : String → Prop)
    (keep : World → Prop) (node node' : Bytes → BuildM Store) (id : Bytes) : Prop :=
  ∀ ref, r.Refers records id ref → ∀ built w, r.Sofar records creatable keep built w →
    Builds r records creatable keep (node ref) (node' ref) ref built w

theorem nodes_alike (calls : CallsAlike r records creatable keep node node' id) {role : String}
    {ids : List String} (refers : ∀ name ∈ ids, r.Refers records id (Bytes.ofText name))
    (sofar : r.Sofar records creatable keep built w) :
    Alike (nodes node role ids) (nodes node' role ids) built w
      (fun stores built' w' => r.Sofar records creatable keep built' w' ∧
        stores.length = ids.length ∧
          ∀ name ∈ ids, r.Buildable records creatable (Bytes.ofText name))
      fun e w' => keep w' ∧ Blames r records creatable keep id e := by
  have each := Alike.nodes role (J := r.Sofar records creatable keep) (G := fun _ _ _ _ => True)
    (P := fun name _ _ _ => r.Buildable records creatable (Bytes.ofText name))
    (E := fun e w' => keep w' ∧ Blames r records creatable keep id e)
    (fun _ _ => trivial) (fun _ _ => trivial) (fun h _ => h)
    (fun name member built w sofar => (calls _ (refers name member) built w sofar).mono
      (fun _ _ _ h => ⟨h.1, h.2, trivial⟩)
      fun e w' h => ⟨h.1, h.2.of_context (refers name member)⟩) sofar
  refine each.mono ?_ fun _ _ h => h
  intro stores built' w' outcome
  obtain ⟨sofar', all, -⟩ := outcome
  refine ⟨sofar', all.length_eq.symm, ?_⟩
  exact ((List.forall₂_and_left _ _).mp (all.imp fun _ _ h => And.intro h trivial)).1

theorem buildSharded_alike (steady : Steady r bootstrap records creatable keep)
    (calls : CallsAlike r records creatable keep node node' id) {ids : List String}
    (found : r.described records id = some (.sharded ids))
    (sofar : r.Sofar records creatable keep built w) :
    Builds r records creatable keep (r.buildSharded node ids) (r.buildSharded node' ids) id built
      w := by
  have refers : ∀ name ∈ ids, r.Refers records id (Bytes.ofText name) := fun name member =>
    ⟨_, found, List.mem_map_of_mem member⟩
  refine .bind (nodes_alike calls refers sofar) ?_
  intro shards built' w' outcome
  obtain ⟨⟨kept, all⟩, length, below⟩ := outcome
  refine .lift ?_
  by_cases fits : shards ≠ [] ∧ shards.length < UInt32.size
  · rw [Store.run_newArray w' fits.1 fits.2]
    refine ⟨⟨steady.withPool (steady.reporting _ kept), all⟩, .mk found ⟨?_, ?_⟩ ?_⟩
    · have := List.length_pos_iff.mpr fits.1
      omega
    · have := fits.2
      simp only [UInt32.size] at this
      omega
    · simpa [Record.references] using below
  · obtain ⟨detail, refused⟩ := Store.run_newArray_of_not w' r.hasher.hash fits
    rw [refused]
    refine ⟨kept, .fault .refl ?_ fun report => absurd report (Error.not_isCycle_configuration _)⟩
    intro h
    obtain ⟨some, few⟩ := h.sound found
    rw [← length] at some few
    refine fits ⟨List.length_pos_iff.mp some, ?_⟩
    simp only [UInt32.size]
    omega

/-- The store in which a redundant store remembers keys. -/
def offloadOf (node : Bytes → BuildM Store) (record : RedundantRecord) : BuildM Store :=
  match record.dedupRef? with
  | none => liftM Store.newMemory
  | some id => inContext s!"get deduplication storage '{id}'" (node (Bytes.ofText id))

theorem buildRedundant_eq (node : Bytes → BuildM Store) (name : String)
    (record : RedundantRecord) :
    buildRedundant node name record = (do
      let backs ← nodes node "backed storage" record.storages
      let offload ← offloadOf node record
      let demand ← ofExcept (σ := World) (writeDemand name backs.length record.writeAtLeast)
      let dedup ← Dedup.newOffloaded offload
      Store.newRedundant (.quorum demand) backs dedup.scheme dedup.store) := by
  unfold buildRedundant offloadOf RedundantRecord.dedupRef?
  congr 1
  funext backs
  cases record.dedup with
  | none => rfl
  | some id =>
    by_cases empty : id = ""
    · subst empty
      rfl
    · have named : Option.filter (fun x => x ≠ "") (some id) = some id := by simp [empty]
      rw [named]
      simp

theorem offload_alike (steady : Steady r bootstrap records creatable keep)
    (calls : CallsAlike r records creatable keep node node' id) {record : RedundantRecord}
    (found : r.described records id = some (.redundant record))
    (sofar : r.Sofar records creatable keep built w) :
    Alike (offloadOf node record) (offloadOf node' record) built w
      (fun _ built' w' => r.Sofar records creatable keep built' w' ∧
        ∀ ref ∈ (record.dedupRef?.map Bytes.ofText).toList, r.Buildable records creatable ref)
      fun e w' => keep w' ∧ Blames r records creatable keep id e := by
  unfold offloadOf
  cases dedup : record.dedupRef? with
  | none =>
    refine .lift ?_
    rw [Store.run_newMemory]
    exact ⟨⟨steady.withMemory sofar.1, sofar.2⟩, nofun⟩
  | some name =>
    have refers : r.Refers records id (Bytes.ofText name) := by
      refine ⟨_, found, List.mem_append_right _ ?_⟩
      simp [dedup]
    refine .inContext ((calls _ refers built w sofar).mono ?_ ?_)
    · intro store built' w' outcome
      obtain ⟨sofar', below⟩ := outcome
      exact ⟨sofar', by simpa using below⟩
    · intro e w' outcome
      obtain ⟨kept, blames⟩ := outcome
      exact ⟨kept, blames.of_context refers⟩

/-- A write demand is accepted exactly if there are stores and the threshold, if one is set, can be
    met. -/
theorem writeDemand_cases (name : String) (stores : Nat) (threshold : Option Nat) :
    let fits := 1 ≤ stores ∧ ∀ num, threshold = some num → 1 ≤ num ∧ num ≤ stores
    (∃ demand, writeDemand name stores threshold = .ok demand ∧ demand.needed ≤ stores ∧ fits) ∨
      ∃ detail, writeDemand name stores threshold = .error (.configuration detail) ∧ ¬ fits := by
  intro fits
  simp only [writeDemand, Quorum.all, Quorum.ofNat]
  cases threshold with
  | none =>
    by_cases some : 0 < stores
    · exact .inl ⟨⟨_, some⟩, dif_pos some, Nat.le_refl _, some, nofun⟩
    · exact .inr ⟨_, dif_neg some, fun within => some within.1⟩
  | some num =>
    by_cases many : stores < num
    · refine .inr ⟨_, if_pos many, ?_⟩
      intro within
      exact Nat.not_le.mpr many (within.2 num rfl).2
    · by_cases positive : 0 < num
      · refine .inl ⟨⟨num, positive⟩, ?_, Nat.not_lt.mp many, by omega, ?_⟩
        · simp only [many, if_false, positive, dif_pos]
        · rintro _ ⟨⟩
          exact ⟨positive, Nat.not_lt.mp many⟩
      · refine .inr ⟨"write threshold must be at least 1", ?_, ?_⟩
        · simp only [many, if_false, positive, dif_neg, not_false_eq_true]
        · intro within
          exact positive (within.2 num rfl).1

theorem buildRedundant_alike (steady : Steady r bootstrap records creatable keep)
    (calls : CallsAlike r records creatable keep node node' id) {name : String}
    {record : RedundantRecord} (found : r.described records id = some (.redundant record))
    (sofar : r.Sofar records creatable keep built w) :
    Builds r records creatable keep (buildRedundant node name record)
      (buildRedundant node' name record) id built w := by
  rw [buildRedundant_eq, buildRedundant_eq]
  have refers : ∀ name ∈ record.storages, r.Refers records id (Bytes.ofText name) :=
    fun name member =>
      ⟨_, found, List.mem_append_left _ (List.mem_map_of_mem member)⟩
  refine .bind (nodes_alike calls refers sofar) ?_
  intro backs built₁ w₁ outcome
  obtain ⟨sofar₁, length, below⟩ := outcome
  refine .bind (offload_alike steady calls found sofar₁) ?_
  intro offload built₂ w₂ outcome
  obtain ⟨⟨kept, all⟩, below'⟩ := outcome
  have all_below : ∀ ref ∈ (Record.redundant record).references,
      r.Buildable records creatable ref := by
    intro ref member
    obtain member | member := List.mem_append.mp member
    · obtain ⟨name, listed, rfl⟩ := List.mem_map.mp member
      exact below name listed
    · exact below' ref member
  rw [length]
  obtain ⟨demand, accepted, -, sound⟩ | ⟨detail, refused, unsound⟩ :=
    writeDemand_cases name record.storages.length record.writeAtLeast
  · have some : backs ≠ [] := by
      rw [← List.length_pos_iff, length]
      exact sound.1
    rw [accepted]
    refine .bind (P := fun _ built' w' => r.Sofar records creatable keep built' w')
      (.lift ⟨kept, all⟩) ?_
    rintro demand' built₃ w₃ sofar₃
    refine .bind (P := fun _ built' w' => r.Sofar records creatable keep built' w') (.lift ?_) ?_
    · rw [Dedup.run_newOffloaded]
      exact ⟨steady.withToken sofar₃.1, sofar₃.2⟩
    · rintro dedup built₄ w₄ sofar₄
      refine .lift ?_
      rw [Store.run_newRedundant w₄ some]
      exact ⟨⟨steady.reporting _ sofar₄.1, sofar₄.2⟩, .mk found sound all_below⟩
  · rw [refused]
    refine .bind (P := fun _ _ _ => False) (.lift ⟨kept, .fault .refl ?_ ?_⟩) nofun
    · exact fun h => unsound (h.sound found)
    · exact fun report => absurd report (Error.not_isCycle_configuration detail)

theorem create_alike (steady : Steady r bootstrap records creatable keep) {name url : String}
    (found : r.described records id = some (.simple url))
    (sofar : r.Sofar records creatable keep built w) :
    Builds r records creatable keep
      (liftM (withContext s!"create storage '{name}'" (r.registry.create url)))
      (liftM (withContext s!"create storage '{name}'" (r.registry.create url))) id built w := by
  refine .lift ?_
  rw [run_withContext]
  by_cases fine : creatable url
  · obtain ⟨store, w', kept, run⟩ := steady.created sofar.1 fine
    rw [run]
    exact ⟨⟨kept, sofar.2⟩, .mk found fine nofun⟩
  · obtain ⟨e, w', kept, run⟩ := steady.refused sofar.1 fine
    rw [run]
    refine ⟨kept, .fault .refl ?_ ?_⟩
    · exact fun h => fine (h.sound found)
    · exact fun report => .inr ⟨url, w, e, w', sofar.1, run, report⟩

theorem described_of_found {raw : Bytes} (found : records.get? id = some raw) :
    r.described records id = (r.decode raw).toOption := by
  rw [described, found]

theorem build_alike (steady : Steady r bootstrap records creatable keep)
    (calls : CallsAlike r records creatable keep node node' id)
    (sofar : r.Sofar records creatable keep built w) :
    Builds r records creatable keep (r.build bootstrap node id) (r.build bootstrap node' id) id
      built w := by
  obtain ⟨kept, all⟩ := sofar
  unfold build
  cases stored : records.get? id with
  | none =>
    obtain ⟨e, w', kept', absent, run⟩ := steady.missing kept stored
    refine .bind (P := fun _ _ _ => False) (.lift ?_) nofun
    rw [run_withContext, run]
    refine ⟨kept', .fault .refl (not_soundAt ?_) ?_⟩
    · rw [described, stored]
    · intro cycle
      obtain ⟨name, report⟩ := cycle
      rw [Error.root_context, Error.root_of_isNotFound absent] at report
      cases report
  | some raw =>
    obtain ⟨w₁, kept₁, run⟩ := steady.found kept stored
    have described := described_of_found (r := r) stored
    refine .bind (P := fun raw' built' w' => raw' = raw ∧ built' = built ∧ keep w') (.lift ?_) ?_
    · rw [run_withContext, run]
      exact ⟨rfl, rfl, kept₁⟩
    intro raw built w₁ outcome
    obtain ⟨rfl, rfl, kept₁⟩ := outcome
    cases decoded : r.decode raw with
    | error e =>
      rw [decoded] at described
      exact .bind (P := fun _ _ _ => False) (.lift ⟨kept₁, .fault .refl (not_soundAt described)
        fun report => .inl ⟨raw, e, decoded, report⟩⟩) nofun
    | ok record =>
      rw [decoded] at described
      refine .bind (P := fun record' built' w' => record' = record ∧ built' = built ∧ keep w')
        (.lift ⟨rfl, rfl, kept₁⟩) ?_
      intro record built w₂ outcome
      obtain ⟨rfl, rfl, kept₂⟩ := outcome
      refine .bind (P := fun _ built' w' => built' = built ∧ keep w')
        (.lift ⟨rfl, steady.reporting _ kept₂⟩) ?_
      intro _ built w₃ outcome
      obtain ⟨rfl, kept₃⟩ := outcome
      cases record with
      | simple url => exact create_alike steady described ⟨kept₃, all⟩
      | sharded ids => exact buildSharded_alike steady calls described ⟨kept₃, all⟩
      | redundant record => exact buildRedundant_alike steady calls described ⟨kept₃, all⟩

theorem Refers.recorded (step : r.Refers records id ref) : records.get? id ≠ none := by
  intro absent
  obtain ⟨record, found, -⟩ := step
  rw [described, absent] at found
  cases found

/-- Identifiers that wait for one another and have records are no more than there are records. -/
theorem length_waiting_le {waiting : List Bytes} (distinct : waiting.Nodup)
    (recorded : ∀ x ∈ waiting, records.get? x ≠ none) :
    waiting.length ≤ records.entries.length := by
  have within : waiting ⊆ records.keys := by
    intro x member
    rw [SortedMap.mem_keys_iff, SortedMap.contains]
    exact Option.isSome_iff_ne_none.mpr (recorded x member)
  have fewer := distinct.length_le_of_subset within
  rwa [SortedMap.keys, List.length_map] at fewer

/-- The walk from an identifier, with identifiers waiting that lead to it. The bounds on the depth
    are not met: whatever waits has a record, and nothing waits twice. -/
theorem node_alike (steady : Steady r bootstrap records creatable keep) {fuel fuel' : Nat}
    {waiting : List Bytes} (distinct : waiting.Nodup)
    (recorded : ∀ x ∈ waiting, records.get? x ≠ none)
    (leads : ∀ x ∈ waiting, Relation.TransGen (r.Refers records) x id)
    (enough : records.entries.length < fuel + waiting.length)
    (enough' : records.entries.length < fuel' + waiting.length)
    (sofar : r.Sofar records creatable keep built w) :
    Builds r records creatable keep (r.node bootstrap fuel waiting id)
      (r.node bootstrap fuel' waiting id) id built w := by
  induction fuel generalizing fuel' waiting id built w with
  | zero =>
    have := length_waiting_le distinct recorded
    omega
  | succ fuel ih =>
    cases fuel' with
    | zero =>
      have := length_waiting_le distinct recorded
      omega
    | succ fuel' =>
      unfold node
      refine .bind (P := fun known built' w' => known = built ∧ built' = built ∧ w' = w)
        ⟨rfl, rfl, rfl, rfl⟩ ?_
      intro _ built w outcome
      obtain ⟨rfl, rfl, rfl⟩ := outcome
      cases known : built.get? id with
      | some store => exact .pure ⟨sofar, sofar.2 id store known⟩
      | none =>
        by_cases waits : id ∈ waiting
        · rw [List.contains_iff_mem.mpr waits]
          refine .bind (P := fun _ _ _ => False) (.throw ⟨sofar.1, ?_⟩) nofun
          exact .cycle .refl (leads id waits) ⟨_, rfl⟩
        · have contains : waiting.contains id = false := by simpa using waits
          rw [contains]
          refine .bind (build_alike steady ?_ sofar) ?_
          · intro ref step built w sofar
            refine ih (List.nodup_cons.mpr ⟨waits, distinct⟩) ?_ ?_ ?_ ?_ sofar
            · intro x member
              obtain rfl | member := List.mem_cons.mp member
              · exact step.recorded
              · exact recorded x member
            · intro x member
              obtain rfl | member := List.mem_cons.mp member
              · exact .single step
              · exact (leads x member).tail step
            · simp only [List.length_cons]
              omega
            · simp only [List.length_cons]
              omega
          · intro store built' w' outcome
            obtain ⟨⟨kept, all⟩, buildable⟩ := outcome
            refine .bind (P := fun _ built'' w' => built'' = built'.insert id store ∧ keep w')
              ⟨rfl, rfl, kept⟩ ?_
            intro _ _ w' outcome
            obtain ⟨rfl, kept⟩ := outcome
            refine .pure ⟨⟨kept, ?_⟩, buildable⟩
            intro id' store' found
            rw [SortedMap.get?_insert] at found
            by_cases same : id' = id
            · exact same ▸ buildable
            · rw [if_neg same] at found
              exact all id' store' found

end Walk

end StoreGraph.Resolver
