import Mathlib.Data.List.Nodup
import StoreGraph.Proofs.Resolver.Construction
import StoreGraph.Proofs.Resolver.Requests

/-! # The accounts of a walk

While a resolver walks down a graph, every record that was read belongs to a store that was built
or to an identifier that waits, every backend that was created was created for a simple record, and
what was built is reached through the records that were read (`Accounts`). So no record is read
twice and no backend is created twice for one identifier, also in a walk that fails
(`node_keeps_accounts`).
-/

namespace StoreGraph

namespace Request

variable {log log' : List Request} {id : Bytes}

/-- No record was read twice, and no backend was asked for twice for one identifier. -/
def NoRepeats (log : List Request) : Prop := (readIds log).Nodup ∧ (createdIds log).Nodup

theorem mem_readIds : id ∈ readIds log ↔ ∃ outcome, .read id outcome ∈ log := by
  unfold readIds
  rw [List.mem_filterMap]
  constructor
  · rintro ⟨request, member, named⟩
    cases request with
    | read id' outcome =>
      cases named
      exact ⟨outcome, member⟩
    | create => cases named
  · rintro ⟨outcome, member⟩
    exact ⟨_, member, rfl⟩

theorem mem_createdIds : id ∈ createdIds log ↔ ∃ url outcome, .create id url outcome ∈ log := by
  unfold createdIds
  rw [List.mem_filterMap]
  constructor
  · rintro ⟨request, member, named⟩
    cases request with
    | read => cases named
    | create id' url outcome =>
      cases named
      exact ⟨url, outcome, member⟩
  · rintro ⟨url, outcome, member⟩
    exact ⟨_, member, rfl⟩

@[simp] theorem readIds_read (outcome : Except Error Bytes) :
    readIds (log ++ [.read id outcome]) = readIds log ++ [id] := by
  simp [readIds, List.filterMap_append, readId?]

@[simp] theorem readIds_create (url : String) (outcome : Except Error Store) :
    readIds (log ++ [.create id url outcome]) = readIds log := by
  simp [readIds, List.filterMap_append, readId?]

@[simp] theorem createdIds_read (outcome : Except Error Bytes) :
    createdIds (log ++ [.read id outcome]) = createdIds log := by
  simp [createdIds, List.filterMap_append, createdId?]

@[simp] theorem createdIds_create (url : String) (outcome : Except Error Store) :
    createdIds (log ++ [.create id url outcome]) = createdIds log ++ [id] := by
  simp [createdIds, List.filterMap_append, createdId?]

theorem NoRepeats.read (once : NoRepeats log) (unread : id ∉ readIds log)
    (outcome : Except Error Bytes) : NoRepeats (log ++ [.read id outcome]) := by
  obtain ⟨reads, creates⟩ := once
  unfold NoRepeats
  rw [readIds_read, createdIds_read, ← List.concat_eq_append]
  exact ⟨List.Nodup.concat unread reads, creates⟩

theorem NoRepeats.create (once : NoRepeats log) (uncreated : id ∉ createdIds log) (url : String)
    (outcome : Except Error Store) : NoRepeats (log ++ [.create id url outcome]) := by
  obtain ⟨reads, creates⟩ := once
  unfold NoRepeats
  rw [readIds_create, createdIds_create, ← List.concat_eq_append]
  exact ⟨reads, List.Nodup.concat uncreated creates⟩

end Request

namespace Resolver

open Request

/-- The record of an identifier, as it was read. -/
def Learned (r : Resolver) (log : List Request) (id : Bytes) (record : Record) : Prop :=
  ∃ raw, .read id (.ok raw) ∈ log ∧ r.decode raw = .ok record

/-- An identifier is reached from the entries through the records that were read. -/
inductive Sought (r : Resolver) (log : List Request) (entries : List Bytes) : Bytes → Prop where
  | entry {id} (listed : id ∈ entries) : Sought r log entries id
  | reference {id ref record} (sought : Sought r log entries id)
      (learned : r.Learned log id record) (names : ref ∈ record.references) :
      Sought r log entries ref

/-- The store that an identifier denotes is the one that was created for it, or one over the stores
    that were built for the identifiers that its record names. -/
inductive Denotes (r : Resolver) (log : List Request) (built : Built) (id : Bytes) :
    Store → Prop where
  | simple {url s} (learned : r.Learned log id (.simple url))
      (created : .create id url (.ok s) ∈ log) : Denotes r log built id s
  | sharded {names pool shards} (learned : r.Learned log id (.sharded names))
      (below : BuiltFor built names shards) (some : shards ≠ []) :
      Denotes r log built id (.sharded ⟨pool, r.hasher.hash, shards.length, .ready⟩ shards)
  | redundant {record backs token offload} {demand : Quorum}
      (learned : r.Learned log id (.redundant record))
      (below : BuiltFor built record.storages backs)
      (named : ∀ name, record.dedupRef? = some name →
        built.get? (Bytes.ofText name) = some offload)
      (some : backs ≠ []) (few : demand.needed ≤ backs.length) :
      Denotes r log built id (.redundant (.quorum demand) backs (.offloaded token) offload)

/-- Memory cells are never given back, and a memory cell that a backend is created with is new. -/
structure Mints (r : Resolver) (bootstrap : Store) : Prop where
  reads : ∀ {id w raw w'}, (bootstrap.get id).run w = .ok raw w' →
    w.memories.next ≤ w'.memories.next
  creates : ∀ {url w s w'}, (r.registry.create url).run w = .ok s w' →
    w.memories.next ≤ w'.memories.next
  new : ∀ {url w cell w'}, (r.registry.create url).run w = .ok (.memory cell) w' →
    w.memories.next ≤ cell.index ∧ cell.index < w'.memories.next

theorem run_create_withDefaults {url : String} {w w' : World} {s : Store}
    (run : (Registry.withDefaults.create url).run w = .ok s w') :
    s = .memory ⟨w.memories.next⟩ ∧ w'.memories.next = w.memories.next + 1 ∨
      s = .nop ∧ w'.memories.next = w.memories.next := by
  unfold Registry.create at run
  cases parsed : Url.parse url with
  | error fault =>
    rw [parsed] at run
    cases run
  | ok url =>
    simp only [parsed, Registry.withDefaults, Registry.register, SortedMap.get?_insert] at run
    split at run
    · cases run
    · rename_i factory found
      split at found
      · cases found
        cases run
        exact .inr ⟨rfl, rfl⟩
      · split at found
        · cases found
          cases run
          exact .inl ⟨rfl, rfl⟩
        · cases found

/-- The default backends take new cells. -/
theorem mints_withDefaults {r : Resolver} (defaults : r.registry = .withDefaults)
    (cell : Ref .memory) : r.Mints (.memory cell) := by
  constructor
  · intro id w raw w' run
    rw [Store.get, Store.storage, Storage.run_memory_get] at run
    cases held : (w.entries cell).get? id with
    | none =>
      rw [held] at run
      cases run
    | some value =>
      rw [held] at run
      cases run
      exact Nat.le_refl _
  · intro url w s w' run
    rw [defaults] at run
    obtain ⟨-, next⟩ | ⟨-, next⟩ := run_create_withDefaults run
    · omega
    · omega
  · intro url w cell w' run
    rw [defaults] at run
    obtain ⟨same, next⟩ | ⟨other, -⟩ := run_create_withDefaults run
    · cases same
      rw [next]
      exact ⟨Nat.le_refl _, Nat.lt_succ_self _⟩
    · cases other

/-- The memory cells that backends were created with are taken, each for one identifier. -/
structure Separate (log : List Request) (w : World) : Prop where
  taken : ∀ {id url cell}, .create id url (.ok (.memory cell)) ∈ log →
    cell.index < w.memories.next
  sole : ∀ {id id' url url' cell}, .create id url (.ok (.memory cell)) ∈ log →
    .create id' url' (.ok (.memory cell)) ∈ log → id = id'

/-- What holds while stores are built. -/
structure Accounts (r : Resolver) (bootstrap : Store) (entries waiting : List Bytes)
    (built : Built) (w : World) (log : List Request) : Prop where
  once : NoRepeats log
  read : ∀ id ∈ readIds log, id ∈ waiting ∨ ∃ s, built.get? id = some s
  created : ∀ {id url outcome}, .create id url outcome ∈ log →
    (∃ s, built.get? id = some s) ∧ r.Learned log id (.simple url)
  denotes : ∀ {id s}, built.get? id = some s → r.Denotes log built id s
  sought : ∀ {id s}, built.get? id = some s → r.Sought log entries id
  separate : r.Mints bootstrap → Separate log w

section Growth

variable {r : Resolver} {log log' : List Request} {entries : List Bytes} {built : Built}
  {id : Bytes} {s : Store} {record : Record}

theorem Learned.mono (h : r.Learned log id record) (more : log ⊆ log') :
    r.Learned log' id record := by
  obtain ⟨raw, member, decoded⟩ := h
  exact ⟨raw, more member, decoded⟩

theorem Sought.mono (h : r.Sought log entries id) (more : log ⊆ log') :
    r.Sought log' entries id := by
  induction h with
  | entry listed => exact .entry listed
  | reference _ learned names ih => exact .reference ih (learned.mono more) names

theorem Denotes.mono {built' : Built} (h : r.Denotes log built id s) (more : log ⊆ log')
    (kept : ∀ id s, built.get? id = some s → built'.get? id = some s) :
    r.Denotes log' built' id s := by
  cases h with
  | simple learned created => exact .simple (learned.mono more) (more created)
  | sharded learned below some =>
    exact .sharded (learned.mono more) (below.imp fun _ _ => kept _ _) some
  | redundant learned below named some few =>
    refine .redundant (learned.mono more) (below.imp fun _ _ => kept _ _) ?_ some few
    exact fun name dedup => kept _ _ (named name dedup)

end Growth

section Steps

variable {r : Resolver} {bootstrap : Store} {entries waiting : List Bytes} {built : Built}
  {w w' : World} {log log' : List Request} {id : Bytes} {s : Store}

theorem Separate.world (h : Separate log w) (more : w.memories.next ≤ w'.memories.next) :
    Separate log w' :=
  ⟨fun member => Nat.lt_of_lt_of_le (h.taken member) more, h.sole⟩

theorem Separate.read (h : Separate log w) (outcome : Except Error Bytes) :
    Separate (log ++ [.read id outcome]) w := by
  constructor
  · exact fun member => h.taken (by simpa using member)
  · exact fun member member' => h.sole (by simpa using member) (by simpa using member')

/-- A new cell was created for no other identifier. -/
theorem Separate.create (h : Separate log w) (mints : r.Mints bootstrap) {url : String}
    (run : (r.registry.create url).run w = .ok s w') :
    Separate (log ++ [.create id url (.ok s)]) w' := by
  have more := mints.creates run
  have fresh : ∀ {id' url' cell}, .create id' url' (.ok (.memory cell)) ∈ log →
      s ≠ .memory cell := by
    rintro id' url' cell member rfl
    exact absurd (h.taken member) (Nat.not_lt.mpr (mints.new run).1)
  constructor
  · intro id' url' cell member
    obtain before | last := List.mem_append.mp member
    · exact Nat.lt_of_lt_of_le (h.taken before) more
    · cases List.mem_singleton.mp last
      exact (mints.new run).2
  · intro id₁ id₂ url₁ url₂ cell member₁ member₂
    obtain before₁ | last₁ := List.mem_append.mp member₁
    · obtain before₂ | last₂ := List.mem_append.mp member₂
      · exact h.sole before₁ before₂
      · cases List.mem_singleton.mp last₂
        exact absurd rfl (fresh before₁)
    · cases List.mem_singleton.mp last₁
      obtain before₂ | last₂ := List.mem_append.mp member₂
      · exact absurd rfl (fresh before₂)
      · cases List.mem_singleton.mp last₂
        rfl

namespace Accounts

theorem start (r : Resolver) (bootstrap : Store) (entries : List Bytes) (w : World) :
    Accounts r bootstrap entries [] .empty w [] :=
  ⟨⟨List.nodup_nil, List.nodup_nil⟩, nofun, nofun, nofun, nofun, fun _ => ⟨nofun, nofun⟩⟩

theorem world (h : Accounts r bootstrap entries waiting built w log)
    (more : w.memories.next ≤ w'.memories.next) :
    Accounts r bootstrap entries waiting built w' log :=
  { h with separate := fun mints => (h.separate mints).world more }

theorem unread (h : Accounts r bootstrap entries waiting built w log) (idle : id ∉ waiting)
    (unbuilt : built.get? id = none) : id ∉ readIds log := by
  intro member
  obtain waits | ⟨s, found⟩ := h.read id member
  · exact idle waits
  · rw [unbuilt] at found
    cases found

theorem uncreated (h : Accounts r bootstrap entries waiting built w log)
    (unbuilt : built.get? id = none) : id ∉ createdIds log := by
  intro member
  obtain ⟨url, outcome, member⟩ := mem_createdIds.mp member
  obtain ⟨⟨s, found⟩, -⟩ := h.created member
  rw [unbuilt] at found
  cases found

/-- The record of an identifier is read, which waits from then on. -/
theorem reading (h : Accounts r bootstrap entries waiting built w log) (idle : id ∉ waiting)
    (unbuilt : built.get? id = none) {raw : Bytes}
    (run : (bootstrap.get id).run w = .ok raw w') :
    Accounts r bootstrap entries (id :: waiting) built w' (log ++ [.read id (.ok raw)]) where
  once := h.once.read (h.unread idle unbuilt) _
  read id' member := by
    rw [readIds_read] at member
    obtain before | last := List.mem_append.mp member
    · exact (h.read id' before).imp_left (List.mem_cons_of_mem id)
    · rw [List.mem_singleton.mp last]
      exact .inl List.mem_cons_self
  created member := by
    obtain ⟨found, learned⟩ := h.created (by simpa using member)
    exact ⟨found, learned.mono (List.subset_append_left _ _)⟩
  denotes found := (h.denotes found).mono (List.subset_append_left _ _) fun _ _ found => found
  sought found := (h.sought found).mono (List.subset_append_left _ _)
  separate mints := ((h.separate mints).world (mints.reads run)).read _

/-- The store of an identifier that waited is built last. If something was asked for meanwhile, it
    was asked for this identifier. -/
theorem insert (h : Accounts r bootstrap entries (id :: waiting) built w log)
    (unbuilt : built.get? id = none) (more : log ⊆ log') (once : NoRepeats log')
    (reads : readIds log' = readIds log)
    (creates : ∀ {id' url outcome}, .create id' url outcome ∈ log' →
      .create id' url outcome ∈ log ∨ id' = id ∧ r.Learned log id (.simple url))
    (denotes : r.Denotes log' built id s) (sought : r.Sought log entries id)
    (separate : r.Mints bootstrap → Separate log' w') :
    Accounts r bootstrap entries waiting (built.insert id s) w' log' := by
  have kept : ∀ id' s', built.get? id' = some s' → (built.insert id s).get? id' = some s' := by
    intro id' s' found
    rw [SortedMap.get?_insert_of_ne _ ?_, found]
    rintro rfl
    rw [unbuilt] at found
    cases found
  refine ⟨once, ?_, ?_, ?_, ?_, separate⟩
  · intro id' member
    rw [reads] at member
    obtain waits | ⟨s', found⟩ := h.read id' member
    · obtain rfl | waits := List.mem_cons.mp waits
      · exact .inr ⟨s, SortedMap.get?_insert_self _ _ _⟩
      · exact .inl waits
    · exact .inr ⟨s', kept id' s' found⟩
  · intro id' url outcome member
    obtain before | ⟨rfl, learned⟩ := creates member
    · obtain ⟨⟨s', found⟩, learned⟩ := h.created before
      exact ⟨⟨s', kept id' s' found⟩, learned.mono more⟩
    · exact ⟨⟨s, SortedMap.get?_insert_self _ _ _⟩, learned.mono more⟩
  · intro id' s' found
    obtain ⟨rfl, rfl⟩ | before := built_insert found
    · exact denotes.mono (fun _ member => member) kept
    · exact (h.denotes before).mono more kept
  · intro id' s' found
    obtain ⟨rfl, -⟩ | before := built_insert found
    · exact sought.mono more
    · exact (h.sought before).mono more

/-- A store was made for an identifier without asking for anything. -/
theorem made (h : Accounts r bootstrap entries (id :: waiting) built w log)
    (unbuilt : built.get? id = none) (denotes : r.Denotes log built id s)
    (sought : r.Sought log entries id) :
    Accounts r bootstrap entries waiting (built.insert id s) w log :=
  h.insert unbuilt (List.Subset.refl log) h.once rfl .inl denotes sought h.separate

/-- A backend was created for an identifier. -/
theorem creating (h : Accounts r bootstrap entries (id :: waiting) built w log)
    (unbuilt : built.get? id = none) {url : String} (learned : r.Learned log id (.simple url))
    (sought : r.Sought log entries id) (run : (r.registry.create url).run w = .ok s w') :
    Accounts r bootstrap entries waiting (built.insert id s) w'
      (log ++ [.create id url (.ok s)]) := by
  have more : log ⊆ log ++ [.create id url (.ok s)] := List.subset_append_left _ _
  have denotes : r.Denotes (log ++ [.create id url (.ok s)]) built id s :=
    .simple (learned.mono more) (by simp)
  apply h.insert unbuilt more (h.once.create (h.uncreated unbuilt) url _) _ _ denotes sought
  · exact fun mints => (h.separate mints).create mints run
  · exact readIds_create url _
  · intro id' url' outcome member
    obtain before | last := List.mem_append.mp member
    · exact .inl before
    · cases List.mem_singleton.mp last
      exact .inr ⟨rfl, learned⟩

end Accounts

end Steps

/-! ## The walk -/

section Walk

variable {r : Resolver} {bootstrap : Store} {entries waiting : List Bytes} {built : Built}
  {w : World} {log : List Request} {id : Bytes}
  {node : Bytes → Building (World × List Request) Store} {node' : Bytes → BuildM Store}

/-- Whenever the accounts hold, the store of an identifier is built, and they hold again. -/
def KeepsAccounts (r : Resolver) (bootstrap : Store) (entries waiting : List Bytes) (id : Bytes)
    (x : Building (World × List Request) Store) (y : BuildM Store) : Prop :=
  ∀ built w log, Accounts r bootstrap entries waiting built w log → r.Sought log entries id →
    Logged x y built w log
      (fun s built' w' log' => Accounts r bootstrap entries waiting built' w' log' ∧
        Extends waiting built built' ∧ log ⊆ log' ∧ built'.get? id = some s) NoRepeats

/-- The outcome of building a store that is not yet counted to what was built. -/
def Completes (r : Resolver) (bootstrap : Store) (entries waiting : List Bytes) (id : Bytes)
    (x : Building (World × List Request) Store) (y : BuildM Store) (built : Built) (w : World)
    (log : List Request) : Prop :=
  Logged x y built w log
    (fun s built' w' log' => Extends (id :: waiting) built built' ∧ log ⊆ log' ∧
      (built'.get? id = none →
        Accounts r bootstrap entries waiting (built'.insert id s) w' log')) NoRepeats

/-- Stores are built for several identifiers, one after the other. -/
theorem mapM_keeps {ι : Type} {names : List ι} (name : ι → Bytes)
    {f : ι → Building (World × List Request) Store} {g : ι → BuildM Store}
    (calls : ∀ i, KeepsAccounts r bootstrap entries waiting (name i) (f i) (g i))
    (accounts : Accounts r bootstrap entries waiting built w log)
    (sought : ∀ i ∈ names, r.Sought log entries (name i)) :
    Logged (names.mapM f) (names.mapM g) built w log
      (fun stores built' w' log' => Accounts r bootstrap entries waiting built' w' log' ∧
        List.Forall₂ (fun i s => built'.get? (name i) = some s) names stores ∧
        Extends waiting built built' ∧ log ⊆ log') NoRepeats := by
  induction names generalizing built w log with
  | nil => exact .pure ⟨accounts, .nil, .refl built, List.Subset.refl log⟩
  | cons i rest ih =>
    rw [List.mapM_cons, List.mapM_cons]
    refine .bind (calls i built w log accounts (sought i List.mem_cons_self)) ?_
    rintro s built₁ w₁ log₁ ⟨accounts₁, extends₁, more₁, found⟩
    have sought₁ : ∀ i ∈ rest, r.Sought log₁ entries (name i) := fun i member =>
      (sought i (List.mem_cons_of_mem _ member)).mono more₁
    refine .bind (ih accounts₁ sought₁) ?_
    rintro stores built₂ w₂ log₂ ⟨accounts₂, others, extends₂, more₂⟩
    exact .pure ⟨accounts₂, .cons (extends₂.kept _ _ found) others, extends₁.trans extends₂,
      List.Subset.trans more₁ more₂⟩

section Stores

variable
  (calls : ∀ ref, KeepsAccounts r bootstrap entries (id :: waiting) ref (node ref) (node' ref))
  (accounts : Accounts r bootstrap entries (id :: waiting) built w log)
  (sought : r.Sought log entries id)

include calls accounts sought

theorem nodes_keeps {record : Record} (learned : r.Learned log id record) (role : String)
    {names : List String} (refers : ∀ name ∈ names, Bytes.ofText name ∈ record.references) :
    Logged (Tools.nodes node role names) (Tools.nodes node' role names) built w log
      (fun stores built' w' log' => Accounts r bootstrap entries (id :: waiting) built' w' log' ∧
        BuiltFor built' names stores ∧ Extends (id :: waiting) built built' ∧ log ⊆ log')
      NoRepeats := by
  apply mapM_keeps Bytes.ofText _ accounts
  · exact fun name member => sought.reference learned (refers name member)
  · exact fun name built w log accounts sought => (calls _ built w log accounts sought).inContext

theorem buildSharded_completes {names : List String}
    (learned : r.Learned log id (.sharded names)) :
    Completes r bootstrap entries waiting id
      ((Tools.noting r bootstrap).buildSharded r node names)
      ((Tools.plain r bootstrap).buildSharded r node' names) built w log := by
  refine .bind (nodes_keeps calls accounts sought learned "shard"
    fun name member => List.mem_map_of_mem member) ?_
  rintro shards built' w' log' ⟨accounts', below, more, further⟩
  refine .act ?_ accounts'.once
  intro s w'' run
  by_cases fits : shards ≠ [] ∧ shards.length < UInt32.size
  · rw [Store.run_newArray w' fits.1 fits.2] at run
    cases run
    refine ⟨more, further, fun unbuilt => ?_⟩
    have same : Accounts r bootstrap entries (id :: waiting) built'
        (w'.reporting (.arrayPoolCreating shards.length)).withPool log' :=
      accounts'.world (Nat.le_refl _)
    exact same.made unbuilt (.sharded (learned.mono further) below fits.1) (sought.mono further)
  · obtain ⟨detail, refused⟩ := Store.run_newArray_of_not w' r.hasher.hash fits
    rw [refused] at run
    cases run

/-- The dedup store was built before, or it is a new one if none is named. -/
theorem offload_keeps_accounts {record : RedundantRecord}
    (learned : r.Learned log id (.redundant record)) :
    Logged ((Tools.noting r bootstrap).offload node record)
      ((Tools.plain r bootstrap).offload node' record) built w log
      (fun offload built' w' log' => Accounts r bootstrap entries (id :: waiting) built' w' log' ∧
        (∀ name, record.dedupRef? = some name →
          built'.get? (Bytes.ofText name) = some offload) ∧
        Extends (id :: waiting) built built' ∧ log ⊆ log') NoRepeats := by
  unfold Tools.offload
  cases dedup : record.dedupRef? with
  | none =>
    refine .act ?_ accounts.once
    intro offload w' run
    rw [Store.run_newMemory] at run
    cases run
    exact ⟨accounts.world (Nat.le_succ _), nofun, .refl built, List.Subset.refl log⟩
  | some name =>
    have refers : Bytes.ofText name ∈ (Record.redundant record).references := by
      simp [Record.references, dedup]
    refine .inContext ((calls _ built w log accounts (sought.reference learned refers)).mono ?_)
    rintro offload built' w' log' ⟨accounts', more, further, found⟩
    refine ⟨accounts', ?_, more, further⟩
    rintro _ ⟨⟩
    exact found

theorem buildRedundant_completes {name : String} {record : RedundantRecord}
    (learned : r.Learned log id (.redundant record)) :
    Completes r bootstrap entries waiting id
      ((Tools.noting r bootstrap).buildRedundant node name record)
      ((Tools.plain r bootstrap).buildRedundant node' name record) built w log := by
  refine .bind (nodes_keeps calls accounts sought learned "backed storage" ?_) ?_
  · exact fun name member => List.mem_append_left _ (List.mem_map_of_mem member)
  rintro backs built₁ w₁ log₁ ⟨accounts₁, below, more₁, further₁⟩
  refine .bind (offload_keeps_accounts calls accounts₁ (sought.mono further₁)
    (learned.mono further₁)) ?_
  rintro offload built₂ w₂ log₂ ⟨accounts₂, named, more₂, further₂⟩
  have further := List.Subset.trans further₁ further₂
  have below : BuiltFor built₂ record.storages backs := below.imp fun _ _ => more₂.kept _ _
  refine .bind (P := fun demand built' w' log' => built' = built₂ ∧ log' = log₂ ∧ w' = w₂ ∧
    backs ≠ [] ∧ demand.needed ≤ backs.length) (.act ?_ accounts₂.once) ?_
  · intro demand w' run
    obtain ⟨demand', accepted, few, fits⟩ | ⟨detail, refused, -⟩ :=
      writeDemand_cases name backs.length record.writeAtLeast
    · rw [accepted] at run
      cases run
      exact ⟨rfl, rfl, rfl, List.length_pos_iff.mp fits.1, few⟩
    · rw [refused] at run
      cases run
  rintro demand built₂ w₂ log₂ ⟨rfl, rfl, rfl, some, few⟩
  refine .bind (P := fun dedup built' w' log' => built' = built₂ ∧ log' = log₂ ∧
    dedup = ⟨.offloaded ⟨w₂.tokens.next⟩, offload⟩ ∧ w' = w₂.withToken) (.act ?_ accounts₂.once) ?_
  · intro dedup w' run
    rw [Dedup.run_newOffloaded] at run
    cases run
    exact ⟨rfl, rfl, rfl, rfl⟩
  rintro _ built₂ _ log₂ ⟨rfl, rfl, rfl, rfl⟩
  refine .act ?_ accounts₂.once
  intro s w' run
  rw [Store.run_newRedundant _ some] at run
  cases run
  refine ⟨more₁.trans more₂, further, fun unbuilt => ?_⟩
  have same : Accounts r bootstrap entries (id :: waiting) built₂
      (w₂.withToken.reporting (.redundantCreating backs.length)) log₂ :=
    accounts₂.world (Nat.le_refl _)
  exact same.made unbuilt (.redundant (learned.mono further) below named some few)
    (sought.mono further)

omit calls in
theorem create_completes {doing url : String} (unbuilt : built.get? id = none)
    (learned : r.Learned log id (.simple url)) :
    Completes r bootstrap entries waiting id
      (Tools.inContext doing (liftM ((Tools.noting r bootstrap).create id url)))
      (Tools.inContext doing (liftM ((Tools.plain r bootstrap).create id url))) built w log := by
  refine .inContext (.ask ?_ fun e => accounts.once.create (accounts.uncreated unbuilt) url _)
  intro s w' run
  exact ⟨.refl built, List.subset_append_left _ _, fun _ =>
    accounts.creating unbuilt learned sought run⟩

end Stores

theorem build_completes
    (calls : ∀ ref, KeepsAccounts r bootstrap entries (id :: waiting) ref (node ref) (node' ref))
    (accounts : Accounts r bootstrap entries waiting built w log) (idle : id ∉ waiting)
    (unbuilt : built.get? id = none) (sought : r.Sought log entries id) :
    Completes r bootstrap entries waiting id ((Tools.noting r bootstrap).build r node id)
      ((Tools.plain r bootstrap).build r node' id) built w log := by
  unfold Tools.build
  simp only [Building.liftM_withContext]
  refine .bind (P := fun raw built' w' log' => built' = built ∧ log ⊆ log' ∧
    .read id (.ok raw) ∈ log' ∧ Accounts r bootstrap entries (id :: waiting) built w' log')
    (.inContext (.ask ?_ fun e => accounts.once.read (accounts.unread idle unbuilt) _)) ?_
  · intro raw w' run
    exact ⟨rfl, List.subset_append_left _ _, by simp, accounts.reading idle unbuilt run⟩
  rintro raw built w₁ log₁ ⟨rfl, more, read, accounts₁⟩
  have sought₁ := sought.mono more
  refine .bind (P := fun record built' w' log' => built' = built ∧ log' = log₁ ∧ w' = w₁ ∧
    r.decode raw = .ok record) (.inContext (.act ?_ accounts₁.once)) ?_
  · intro record w' run
    cases decoded : r.decode raw with
    | error e =>
      rw [decoded] at run
      cases run
    | ok record =>
      rw [decoded] at run
      cases run
      exact ⟨rfl, rfl, rfl, rfl⟩
  rintro record built w₁ log₁ ⟨rfl, rfl, rfl, decoded⟩
  have learned : r.Learned log₁ id record := ⟨raw, read, decoded⟩
  refine .bind (P := fun _ built' w' log' => built' = built ∧ log' = log₁ ∧
    Accounts r bootstrap entries (id :: waiting) built w' log₁) (.act ?_ accounts₁.once) ?_
  · intro _ w' run
    cases run
    exact ⟨rfl, rfl, accounts₁.world (Nat.le_refl _)⟩
  rintro _ built w₂ log₁ ⟨rfl, rfl, accounts₂⟩
  suffices h : Completes r bootstrap entries waiting id _ _ built w₂ log₁ by
    refine h.mono ?_
    rintro s built' w' log' ⟨extends', more', accounts'⟩
    exact ⟨extends', List.Subset.trans more more', accounts'⟩
  cases record with
  | simple url => exact create_completes accounts₂ sought₁ unbuilt learned
  | sharded names => exact buildSharded_completes calls accounts₂ sought₁ learned
  | redundant record => exact buildRedundant_completes calls accounts₂ sought₁ learned

theorem node_keeps_accounts (fuel : Nat) (waiting : List Bytes) (id : Bytes) :
    KeepsAccounts r bootstrap entries waiting id ((Tools.noting r bootstrap).node r fuel waiting id)
      ((Tools.plain r bootstrap).node r fuel waiting id) := by
  induction fuel generalizing waiting id with
  | zero => exact fun built w log accounts _ => .throw accounts.once
  | succ fuel ih =>
    intro built w log accounts sought
    unfold Tools.node Tools.unlessBuilt
    refine .bind (P := fun known built' w' log' => known = built ∧ built' = built ∧ w' = w ∧
      log' = log) (.ok rfl rfl ⟨rfl, rfl, rfl, rfl⟩) ?_
    rintro _ built w log ⟨rfl, rfl, rfl, rfl⟩
    cases known : built.get? id with
    | some s => exact .pure ⟨accounts, .refl built, List.Subset.refl log, known⟩
    | none =>
      by_cases waits : id ∈ waiting
      · rw [List.contains_iff_mem.mpr waits]
        exact .bind (P := fun _ _ _ _ => False) (.throw accounts.once) fun _ _ _ _ => False.elim
      · have contains : waiting.contains id = false := by simpa using waits
        rw [contains]
        refine .bind (build_completes (ih (id :: waiting)) accounts waits known sought) ?_
        rintro s built' w' log' ⟨more, further, completes⟩
        have unbuilt : built'.get? id = none := by
          rw [more.idle id List.mem_cons_self, known]
        refine .bind (P := fun _ built'' w'' log'' => built'' = built'.insert id s ∧ w'' = w' ∧
          log'' = log') (.ok rfl rfl ⟨rfl, rfl, rfl⟩) ?_
        rintro _ _ w' log' ⟨rfl, rfl, rfl⟩
        exact .pure ⟨completes unbuilt, more.insert unbuilt waits, further,
          SortedMap.get?_insert_self _ _ _⟩

end Walk

end Resolver

end StoreGraph
