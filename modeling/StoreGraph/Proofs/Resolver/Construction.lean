import StoreGraph.Proofs.Resolver.Acceptance

/-! # Graphs, store by store

What holds of all that a resolver builds is proved store by store. `Made` lists the ways in which a
store is made for an identifier, out of stores that were built before. An invariant that outlives
reading a record, reporting and making one more store holds of what a walk has built
(`node_constructs`), and so of what resolving gives (`resolve_constructs`).
-/

namespace StoreGraph.Resolver

/-- More was built, but none of the identifiers that wait. -/
structure Extends (waiting : List Bytes) (built built' : Built) : Prop where
  kept : ∀ id s, built.get? id = some s → built'.get? id = some s
  idle : ∀ id ∈ waiting, built'.get? id = built.get? id

namespace Extends

variable {waiting : List Bytes} {built built₁ built₂ : Built}

theorem refl (built : Built) : Extends waiting built built := ⟨fun _ _ h => h, fun _ _ => rfl⟩

theorem trans (first : Extends waiting built built₁) (second : Extends waiting built₁ built₂) :
    Extends waiting built built₂ where
  kept id s h := second.kept id s (first.kept id s h)
  idle id h := (second.idle id h).trans (first.idle id h)

/-- An identifier that waited is built last. -/
theorem insert {id : Bytes} {s : Store} (more : Extends (id :: waiting) built built₁)
    (unbuilt : built₁.get? id = none) (idle : id ∉ waiting) :
    Extends waiting built (built₁.insert id s) where
  kept id' s' found := by
    have found' := more.kept id' s' found
    have other : id' ≠ id := by
      rintro rfl
      rw [unbuilt] at found'
      cases found'
    rw [SortedMap.get?_insert_of_ne _ other, found']
  idle id' waits := by
    have other : id' ≠ id := by
      rintro rfl
      exact idle waits
    rw [SortedMap.get?_insert_of_ne _ other, more.idle id' (List.mem_cons_of_mem _ waits)]

end Extends

/-- A store was built last, or before. -/
theorem built_insert {built : Built} {id id' : Bytes} {s s' : Store}
    (found : (built.insert id s).get? id' = some s') :
    id' = id ∧ s' = s ∨ built.get? id' = some s' := by
  rw [SortedMap.get?_insert] at found
  by_cases same : id' = id
  · rw [if_pos same] at found
    exact .inl ⟨same, (Option.some.inj found).symm⟩
  · rw [if_neg same] at found
    exact .inr found

/-- The stores were built for the names, in this order. -/
def BuiltFor (built : Built) (names : List String) (stores : List Store) : Prop :=
  List.Forall₂ (fun name s => built.get? (Bytes.ofText name) = some s) names stores

theorem BuiltFor.found {built : Built} {s : Store} {names : List String} {stores : List Store}
    (below : BuiltFor built names stores) (member : s ∈ stores) :
    ∃ name ∈ names, built.get? (Bytes.ofText name) = some s := by
  induction below with
  | nil => cases member
  | @cons name s' names stores first rest ih =>
    obtain rfl | member := List.mem_cons.mp member
    · exact ⟨name, List.mem_cons_self, first⟩
    · obtain ⟨name', listed, found⟩ := ih member
      exact ⟨name', List.mem_cons_of_mem _ listed, found⟩

/-- The ways in which a store is made for an identifier, out of stores that were built before, with
    the worlds before and after it. -/
inductive Made (r : Resolver) (records : SortedMap Bytes Bytes) (built : Built) (id : Bytes) :
    Store → World → World → Prop where
  | simple {url s w w'} (found : r.described records id = some (.simple url))
      (run : (r.registry.create url).run w = .ok s w') : Made r records built id s w w'
  | sharded {names shards w} (found : r.described records id = some (.sharded names))
      (below : BuiltFor built names shards) (some : shards ≠ []) :
      Made r records built id
        (.sharded ⟨⟨w.pools.next⟩, r.hasher.hash, shards.length, .ready⟩ shards) w w.withPool
  | unnamed {record backs} {demand : Quorum} {w}
      (found : r.described records id = some (.redundant record))
      (dedup : record.dedupRef? = none) (below : BuiltFor built record.storages backs)
      (some : backs ≠ []) (few : demand.needed ≤ backs.length) :
      Made r records built id
        (.redundant (.quorum demand) backs (.offloaded ⟨w.tokens.next⟩) (.memory ⟨w.memories.next⟩))
        w w.withMemory.withToken
  | named {record backs} {demand : Quorum} {name offload w}
      (found : r.described records id = some (.redundant record))
      (dedup : record.dedupRef? = some name)
      (stored : built.get? (Bytes.ofText name) = some offload)
      (below : BuiltFor built record.storages backs)
      (some : backs ≠ []) (few : demand.needed ≤ backs.length) :
      Made r records built id
        (.redundant (.quorum demand) backs (.offloaded ⟨w.tokens.next⟩) offload) w w.withToken

/-- An invariant of what was built from the records that the entry reaches. -/
structure Constructs (r : Resolver) (bootstrap : Store) (records : SortedMap Bytes Bytes)
    (entry : Bytes) (J : Built → World → Prop) : Prop where
  reads : ∀ {built w id raw w'}, J built w → (bootstrap.get id).run w = .ok raw w' →
    records.get? id = some raw ∧ J built w'
  reports : ∀ {built w} event, J built w → J built (w.reporting event)
  makes : ∀ {built w id s w'}, r.Reaches records entry id → built.get? id = none → J built w →
    r.Made records built id s w w' → J (built.insert id s) w'

theorem Constructs.and {r : Resolver} {bootstrap : Store} {records : SortedMap Bytes Bytes}
    {entry : Bytes} {J J' : Built → World → Prop} (h : Constructs r bootstrap records entry J)
    (h' : Constructs r bootstrap records entry J') :
    Constructs r bootstrap records entry fun built w => J built w ∧ J' built w where
  reads both run := ⟨(h.reads both.1 run).1, (h.reads both.1 run).2, (h'.reads both.2 run).2⟩
  reports event both := ⟨h.reports event both.1, h'.reports event both.2⟩
  makes path unbuilt both made :=
    ⟨h.makes path unbuilt both.1 made, h'.makes path unbuilt both.2 made⟩

section Construction

variable {r : Resolver} {bootstrap : Store} {records : SortedMap Bytes Bytes} {entry id : Bytes}
  {J : Built → World → Prop} {built : Built} {w : World} {waiting : List Bytes}
  {node : Bytes → BuildM Store}

/-- Whenever the invariant holds, the action builds the store of an identifier, while others wait,
    and keeps the invariant. -/
def Keeps (J : Built → World → Prop) (waiting : List Bytes) (id : Bytes) (x : BuildM Store) :
    Prop :=
  ∀ built w, J built w → Alike x x built w
    (fun s built' w' => J built' w' ∧ Extends waiting built built' ∧ built'.get? id = some s)
    fun _ _ => True

/-- The outcome of building a store that is not yet counted to what was built. -/
def Adds (J : Built → World → Prop) (waiting : List Bytes) (id : Bytes) (x : BuildM Store)
    (built : Built) (w : World) : Prop :=
  Alike x x built w
    (fun s built' w' => Extends waiting built built' ∧
      (built'.get? id = none → J (built'.insert id s) w')) fun _ _ => True

theorem nodes_keep (calls : ∀ ref, r.Refers records id ref → Keeps J waiting ref (node ref))
    (role : String) {names : List String}
    (refers : ∀ name ∈ names, r.Refers records id (Bytes.ofText name)) (holds : J built w) :
    Alike (nodes node role names) (nodes node role names) built w
      (fun stores built' w' => J built' w' ∧ BuiltFor built' names stores ∧
        Extends waiting built built') fun _ _ => True :=
  Alike.nodes role (G := fun b _ b' _ => Extends waiting b b')
    (P := fun name s b _ => b.get? (Bytes.ofText name) = some s)
    (fun b _ => .refl b) .trans (fun found more => more.kept _ _ found)
    (fun name member built w holds => (calls _ (refers name member) built w holds).mono
      (fun _ _ _ h => ⟨h.1, h.2.2, h.2.1⟩) fun _ _ h => h) holds

section Stores

variable (constructs : Constructs r bootstrap records entry J) (path : r.Reaches records entry id)
  (calls : ∀ ref, r.Refers records id ref → Keeps J waiting ref (node ref)) (holds : J built w)

include constructs path calls holds

theorem buildSharded_adds {names : List String}
    (found : r.described records id = some (.sharded names)) :
    Adds J waiting id (r.buildSharded node names) built w := by
  have refers : ∀ name ∈ names, r.Refers records id (Bytes.ofText name) := fun name member =>
    ⟨_, found, List.mem_map_of_mem member⟩
  refine .bind (nodes_keep calls _ refers holds) ?_
  intro shards built' w' outcome
  obtain ⟨holds', below, more⟩ := outcome
  refine .lift ?_
  by_cases fits : shards ≠ [] ∧ shards.length < UInt32.size
  · rw [Store.run_newArray w' fits.1 fits.2]
    have reported := constructs.reports (.arrayPoolCreating shards.length) holds'
    exact ⟨more, fun unbuilt => constructs.makes path unbuilt reported
      (.sharded (w := w'.reporting _) found below fits.1)⟩
  · obtain ⟨detail, refused⟩ := Store.run_newArray_of_not w' r.hasher.hash fits
    rw [refused]
    trivial

omit constructs path in
/-- The offload store was built before, or it is a new one if none is named. -/
theorem offload_keeps {record : RedundantRecord}
    (found : r.described records id = some (.redundant record)) :
    Alike (offloadOf node record) (offloadOf node record) built w
      (fun offload built' w' => ∃ w₁, J built' w₁ ∧ Extends waiting built built' ∧
        match record.dedupRef? with
        | none => offload = .memory ⟨w₁.memories.next⟩ ∧ w' = w₁.withMemory
        | some name => built'.get? (Bytes.ofText name) = some offload ∧ w' = w₁)
      fun _ _ => True := by
  unfold offloadOf
  cases dedup : record.dedupRef? with
  | none =>
    refine .lift ?_
    rw [Store.run_newMemory]
    exact ⟨w, holds, .refl built, rfl, rfl⟩
  | some name =>
    have refers : r.Refers records id (Bytes.ofText name) := by
      refine ⟨_, found, List.mem_append_right _ ?_⟩
      simp [dedup]
    refine .inContext ((calls _ refers built w holds).mono ?_ fun _ _ _ => trivial)
    intro offload built' w' outcome
    obtain ⟨holds', more, stored⟩ := outcome
    exact ⟨w', holds', more, stored, rfl⟩

theorem buildRedundant_adds {name : String} {record : RedundantRecord}
    (found : r.described records id = some (.redundant record)) :
    Adds J waiting id (buildRedundant node name record) built w := by
  rw [buildRedundant_eq]
  have refers : ∀ name ∈ record.storages, r.Refers records id (Bytes.ofText name) :=
    fun name member => ⟨_, found, List.mem_append_left _ (List.mem_map_of_mem member)⟩
  refine .bind (nodes_keep calls _ refers holds) ?_
  intro backs built₁ w₁ outcome
  obtain ⟨holds₁, below, more₁⟩ := outcome
  refine .bind (offload_keeps calls holds₁ found) ?_
  intro offload built₂ w₂ outcome
  obtain ⟨w₁, holds₂, more₂, offered⟩ := outcome
  have below : BuiltFor built₂ record.storages backs :=
    below.imp fun _ _ stored => more₂.kept _ _ stored
  obtain ⟨demand, accepted, few, fits⟩ | ⟨detail, refused, -⟩ :=
    writeDemand_cases name backs.length record.writeAtLeast
  · have some : backs ≠ [] := List.length_pos_iff.mp fits.1
    rw [accepted]
    refine .bind (P := fun demand' built' w' => demand' = demand ∧ built' = built₂ ∧ w' = w₂)
      (.lift ⟨rfl, rfl, rfl⟩) ?_
    intro demand built₂ w₂ outcome
    obtain ⟨rfl, rfl, rfl⟩ := outcome
    refine .bind (P := fun dedup built' w' => dedup = ⟨.offloaded ⟨w₂.tokens.next⟩, offload⟩ ∧
      built' = built₂ ∧ w' = w₂.withToken) (.lift ?_) ?_
    · rw [Dedup.run_newOffloaded]
      exact ⟨rfl, rfl, rfl⟩
    intro _ built₂ _ outcome
    obtain ⟨rfl, rfl, rfl⟩ := outcome
    refine .lift ?_
    rw [Store.run_newRedundant _ some]
    refine ⟨more₁.trans more₂, fun unbuilt => constructs.reports _ ?_⟩
    cases dedup : record.dedupRef? with
    | none =>
      rw [dedup] at offered
      obtain ⟨rfl, rfl⟩ := offered
      exact constructs.makes path unbuilt holds₂
        (.unnamed (w := w₁) found dedup below some few)
    | some name =>
      rw [dedup] at offered
      obtain ⟨stored, rfl⟩ := offered
      exact constructs.makes path unbuilt holds₂ (.named found dedup stored below some few)
  · rw [refused]
    exact .bind (P := fun _ _ _ => False) (.lift trivial) nofun

omit calls in
theorem create_adds {url doing : String} (found : r.described records id = some (.simple url)) :
    Adds J waiting id (liftM (withContext doing (r.registry.create url))) built w := by
  refine .lift ?_
  rw [run_withContext]
  cases run : (r.registry.create url).run w with
  | error e w' => trivial
  | ok s w' =>
    exact ⟨.refl built, fun unbuilt => constructs.makes path unbuilt holds (.simple found run)⟩

theorem build_adds : Adds J waiting id (r.build bootstrap node id) built w := by
  unfold build
  cases run : (bootstrap.get id).run w with
  | error e w₁ =>
    refine .bind (P := fun _ _ _ => False) (.lift ?_) nofun
    rw [run_withContext, run]
    trivial
  | ok raw w₁ =>
    obtain ⟨stored, holds₁⟩ := constructs.reads holds run
    have described := described_of_found (r := r) stored
    refine .bind (P := fun raw' built' w' => raw' = raw ∧ built' = built ∧ w' = w₁) (.lift ?_) ?_
    · rw [run_withContext, run]
      exact ⟨rfl, rfl, rfl⟩
    intro raw built w₁ outcome
    obtain ⟨rfl, rfl, rfl⟩ := outcome
    cases decoded : r.decode raw with
    | error e => exact .bind (P := fun _ _ _ => False) (.lift trivial) nofun
    | ok record =>
      rw [decoded] at described
      refine .bind (P := fun record' built' w' => record' = record ∧ built' = built ∧ w' = w₁)
        (.lift ⟨rfl, rfl, rfl⟩) ?_
      intro record built w₁ outcome
      obtain ⟨rfl, rfl, rfl⟩ := outcome
      have reported := constructs.reports (.recordBuilding record.kind id.lossyText) holds₁
      refine .bind (P := fun _ built' w' => built' = built ∧
        w' = w₁.reporting (.recordBuilding record.kind id.lossyText)) (.lift ⟨rfl, rfl⟩) ?_
      intro _ built _ outcome
      obtain ⟨rfl, rfl⟩ := outcome
      cases record with
      | simple url => exact create_adds constructs path reported described
      | sharded names => exact buildSharded_adds constructs path calls reported described
      | redundant record => exact buildRedundant_adds constructs path calls reported described

end Stores

/-- Walking from an identifier that the entry reaches. -/
theorem node_constructs (constructs : Constructs r bootstrap records entry J) (fuel : Nat)
    (path : r.Reaches records entry id) :
    Keeps J waiting id (r.node bootstrap fuel waiting id) := by
  induction fuel generalizing id waiting with
  | zero => exact fun built w holds => .throw trivial
  | succ fuel ih =>
    intro built w holds
    unfold Resolver.node
    refine .bind (P := fun known built' w' => known = built ∧ built' = built ∧ w' = w)
      ⟨rfl, rfl, rfl, rfl⟩ ?_
    intro _ built w outcome
    obtain ⟨rfl, rfl, rfl⟩ := outcome
    cases known : built.get? id with
    | some s => exact .pure ⟨holds, .refl built, known⟩
    | none =>
      by_cases waits : id ∈ waiting
      · rw [List.contains_iff_mem.mpr waits]
        exact .bind (P := fun _ _ _ => False) (.throw trivial) fun _ _ _ => False.elim
      · have contains : waiting.contains id = false := by simpa using waits
        rw [contains]
        refine .bind (build_adds constructs path
          (fun ref step => ih (Relation.ReflTransGen.tail path step)) holds) ?_
        intro s built' w' outcome
        obtain ⟨more, adds⟩ := outcome
        have unbuilt : built'.get? id = none := by
          rw [more.idle id List.mem_cons_self, known]
        refine .bind (P := fun _ built'' w'' => built'' = built'.insert id s ∧ w'' = w')
          ⟨rfl, rfl, rfl⟩ ?_
        intro _ _ w' outcome
        obtain ⟨rfl, rfl⟩ := outcome
        exact .pure ⟨adds unbuilt, more.insert unbuilt waits, SortedMap.get?_insert_self _ _ _⟩

/-- What resolving gives was built, and the invariant holds of all that was built. -/
theorem resolve_constructs (constructs : Constructs r bootstrap records entry J)
    (begins : J .empty w) {s : Store} {start : World}
    (resolved : (r.resolve entry bootstrap).run w = .ok s start) :
    ∃ built, J built start ∧ built.get? entry = some s := by
  have walk : Keeps J [] entry (r.node bootstrap (w.entryCount + 2) [] entry) :=
    node_constructs constructs _ .refl
  have outcome := (walk .empty w begins).outcome
  rw [run_resolve, run_run'] at resolved
  cases ran : ((r.node bootstrap (w.entryCount + 2) [] entry).run .empty).run w with
  | error e w' =>
    rw [ran] at resolved
    cases resolved
  | ok result w' =>
    obtain ⟨s', built⟩ := result
    rw [ran] at resolved outcome
    cases resolved
    exact ⟨built, outcome.1, outcome.2.2⟩

end Construction

end StoreGraph.Resolver
