import StoreGraph.Proofs.Graph.Placement
import StoreGraph.Proofs.Resolver.Construction

/-! # Graphs that resolving makes

What a resolver builds over memory backends is placed in new cells. The family of stores that are
placed together is what was built so far.
-/

namespace StoreGraph.Resolver

/-- Does the URL name a memory backend? -/
def MemoryUrl (url : String) : Prop :=
  ∃ parsed, Url.parse url = .ok parsed ∧ parsed.scheme = "memory"

/-- No record that the entry reaches names a dedup store. -/
def NoDedups (r : Resolver) (records : SortedMap Bytes Bytes) (entry : Bytes) : Prop :=
  ∀ id record, r.Reaches records entry id →
    r.described records id = some (.redundant record) → record.dedupRef? = none

/-- The entry reaches memory backends only. What is read is one of the records, and reading it
    leaves memory cells alone. -/
structure OverMemory (r : Resolver) (bootstrap : Store) (records : SortedMap Bytes Bytes)
    (keep : World → Prop) (entry : Bytes) : Prop extends Outlives keep where
  reads : ∀ {w id raw w'}, keep w → (bootstrap.get id).run w = .ok raw w' →
    records.get? id = some raw ∧ keep w' ∧ Grows w w'
  factory : r.registry.factories.get? "memory" = some fun _ => Store.newMemory
  urls : ∀ {id url}, r.Reaches records entry id →
    r.described records id = some (.simple url) → MemoryUrl url

/-- Records that are kept in a memory cell. -/
theorem overMemory_recorded {r : Resolver} {cell : Ref .memory} {records : SortedMap Bytes Bytes}
    {entry : Bytes} (factory : r.registry.factories.get? "memory" = some fun _ => Store.newMemory)
    (urls : ∀ {id url}, r.Reaches records entry id →
      r.described records id = some (.simple url) → MemoryUrl url) :
    OverMemory r (.memory cell) records (Recorded cell records) entry where
  toOutlives := (serves_memory cell records).toOutlives
  reads {w id raw w'} kept run := by
    rw [Store.get, Store.storage, Storage.run_memory_get, kept.entries] at run
    cases stored : records.get? id with
    | none =>
      rw [stored] at run
      cases run
    | some value =>
      rw [stored] at run
      cases run
      exact ⟨rfl, kept, .refl w⟩
  factory := factory
  urls := urls

def Among (built : Built) (s : Store) : Prop := ∃ id, built.get? id = some s

/-- The store of a redundant record is redundant. -/
def Shaped (r : Resolver) (records : SortedMap Bytes Bytes) (id : Bytes) (s : Store) : Prop :=
  ∀ record, r.described records id = some (.redundant record) → s.isRedundant = true

/-- What holds while stores are built. -/
structure Laid (r : Resolver) (records : SortedMap Bytes Bytes) (keep : World → Prop) (free : Prop)
    (built : Built) (w : World) : Prop where
  kept : keep w
  placed : Placed free (Among built) w
  shaped : ∀ id s, built.get? id = some s → r.Shaped records id s

/-- One more store is counted to what was built. -/
theorem Laid.insert {r : Resolver} {records : SortedMap Bytes Bytes} {keep : World → Prop}
    {free : Prop} {built : Built} {w w' : World} {id : Bytes} {s : Store}
    (laid : r.Laid records keep free built w) (kept : keep w')
    (placed : Placed free (fun s' => Among built s' ∨ s' = s) w') (shape : r.Shaped records id s) :
    r.Laid records keep free (built.insert id s) w' := by
  refine ⟨kept, placed.mono ?_, ?_⟩
  · intro s' among
    obtain ⟨id', found⟩ := among
    obtain ⟨-, rfl⟩ | before := built_insert found
    · exact .inr rfl
    · exact .inl ⟨id', before⟩
  · intro id' s' found
    obtain ⟨rfl, rfl⟩ | before := built_insert found
    · exact shape
    · exact laid.shaped id' s' before

section Building

variable {r : Resolver} {bootstrap : Store} {records : SortedMap Bytes Bytes}
  {keep : World → Prop} {entry id : Bytes} {free : Prop} {built : Built} {w : World}

theorem BuiltFor.among {names : List String} {stores : List Store}
    (below : BuiltFor built names stores) : ∀ s ∈ stores, Among built s := by
  intro s member
  obtain ⟨name, -, found⟩ := below.found member
  exact ⟨_, found⟩

/-- What a simple record makes is a new memory cell. -/
theorem OverMemory.run_create (backed : OverMemory r bootstrap records keep entry) {url : String}
    (path : r.Reaches records entry id) (found : r.described records id = some (.simple url))
    (w : World) : (r.registry.create url).run w = .ok (.memory ⟨w.memories.next⟩)
      (w.reporting (.backendCreating "memory")).withMemory := by
  obtain ⟨parsed, parse, scheme⟩ := backed.urls path found
  simp only [Registry.create, parse, scheme, backed.factory]
  rfl

theorem laid_constructs (backed : OverMemory r bootstrap records keep entry)
    (unnamed : free → r.NoDedups records entry) :
    Constructs r bootstrap records entry (r.Laid records keep free) where
  reads laid run := by
    obtain ⟨stored, kept, grows⟩ := backed.reads laid.kept run
    exact ⟨stored, kept, laid.placed.grow grows, laid.shaped⟩
  reports event laid :=
    ⟨backed.reporting event laid.kept, laid.placed.grow (.reporting _ event), laid.shaped⟩
  makes {built w id s w'} path unbuilt laid made := by
    have other : ∀ {record : Record}, r.described records id = some record →
        (∀ redundant, record ≠ .redundant redundant) → ∀ s, r.Shaped records id s := by
      intro record found plain s redundant found'
      rw [found] at found'
      exact absurd (Option.some.inj found') (plain redundant)
    cases made with
    | @simple url s w w' found run =>
      rw [backed.run_create path found] at run
      cases run
      have grows := Grows.reporting w (.backendCreating "memory")
      exact laid.insert (backed.withMemory (backed.reporting _ laid.kept))
        (laid.placed.grow grows).memory (other found nofun _)
    | sharded found below some =>
      have placed := laid.placed.grow (.withPool w)
      exact laid.insert (backed.withPool laid.kept) (placed.sharded rfl rfl some below.among)
        (other found nofun _)
    | unnamed found dedup below some few =>
      have grows := (Grows.withMemory w).trans (.withToken _)
      refine laid.insert (backed.withToken (backed.withMemory laid.kept)) ?_ fun _ _ => rfl
      refine (laid.placed.grow grows).redundant some few below.among (Nat.lt_succ_self _) ?_ ?_
      · intro all s member tokens
        exact Nat.lt_irrefl _ (laid.placed.tokens all member tokens)
      · intro all
        refine ⟨_, rfl, (blank_withMemory w).grow (.withToken _), ?_⟩
        intro s member
        constructor
        · exact fun leaf => Nat.lt_irrefl _ (laid.placed.leaf member leaf).taken
        · exact fun marks => Nat.lt_irrefl _ (laid.placed.marks all member marks).taken
    | named found dedup stored below some few =>
      refine laid.insert (backed.withToken laid.kept) ?_ fun _ _ => rfl
      refine (laid.placed.grow (.withToken w)).redundant some few below.among
        (Nat.lt_succ_self _) ?_ ?_
      · intro all s member tokens
        exact Nat.lt_irrefl _ (laid.placed.tokens all member tokens)
      · intro all
        rw [unnamed all id _ path found] at dedup
        cases dedup

end Building

end StoreGraph.Resolver
