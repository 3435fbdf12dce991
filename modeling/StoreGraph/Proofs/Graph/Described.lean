import StoreGraph.Proofs.Graph.Building
import StoreGraph.Proofs.Graph.Scratch

/-! # Stores and their records

What is built over memory backends agrees with the records, identifier by identifier, and no memory
cell and no token is taken for two identifiers (`Accords`). So two stores below one store share a
memory cell only through a simple record that both lead to, which the records tell
(`spans_described`).
-/

namespace StoreGraph

/-- The identifiers of the stores that hold what is put into the record's store. -/
def Record.holders : Record → List Bytes
  | simple _ => []
  | sharded ids => ids.map Bytes.ofText
  | redundant record => record.storages.map Bytes.ofText

namespace Resolver

open Store

/-- What is put into the store of the first identifier is held by the store of the second one,
    perhaps among others. -/
def HeldBy (r : Resolver) (records : SortedMap Bytes Bytes) : Bytes → Bytes → Prop :=
  Relation.ReflTransGen fun id id' =>
    ∃ record, r.described records id = some record ∧ id' ∈ record.holders

/-- The store of a simple record holds all that is put into it. -/
theorem HeldBy.eq_of_simple {r : Resolver} {records : SortedMap Bytes Bytes} {id id' : Bytes}
    {url : String} (path : r.HeldBy records id id')
    (simple : r.described records id = some (.simple url)) : id' = id := by
  obtain rfl | ⟨next, ⟨record, found, member⟩, -⟩ := path.cases_head
  · rfl
  · rw [simple] at found
    cases found
    exact absurd member List.not_mem_nil

/-- The store is what the identifier describes, over stores that were built. -/
inductive Describes (r : Resolver) (records : SortedMap Bytes Bytes) (built : Built) (id : Bytes) :
    Store → Prop where
  | simple {url cell} (found : r.described records id = some (.simple url)) :
      Describes r records built id (.memory cell)
  | sharded {names pool stock} (found : r.described records id = some (.sharded names))
      (below : BuiltFor built names stock) : Describes r records built id (.sharded pool stock)
  | redundant {record policy backs token offload}
      (found : r.described records id = some (.redundant record))
      (below : BuiltFor built record.storages backs)
      (named : ∀ name, record.dedupRef? = some name →
        built.get? (Bytes.ofText name) = some offload)
      (unnamed : record.dedupRef? = none → ∃ cell, offload = .memory cell) :
      Describes r records built id (.redundant policy backs (.offloaded token) offload)

/-- The memory cell that was taken for the store of an identifier: its own, or that of a dedup store
    without a name. -/
inductive TookCell (r : Resolver) (records : SortedMap Bytes Bytes) (id : Bytes) :
    Store → Ref .memory → Prop where
  | simple {cell} : TookCell r records id (.memory cell) cell
  | unnamed {record policy backs dedup cell}
      (found : r.described records id = some (.redundant record))
      (unnamed : record.dedupRef? = none) :
      TookCell r records id (.redundant policy backs dedup (.memory cell)) cell

/-- The token cell that was taken for a store. -/
inductive TookToken : Store → Ref .token → Prop where
  | redundant {policy backs token offload} :
      TookToken (.redundant policy backs (.offloaded token) offload) token

/-- Whatever was taken for an identifier was taken for this one only, and before `next`. -/
structure Ledger {kind : CellKind} (took : Bytes → Store → Ref kind → Prop) (built : Built)
    (next : Nat) : Prop where
  taken : ∀ {id s cell}, built.get? id = some s → took id s cell → cell.index < next
  sole : ∀ {id id' s s' cell}, built.get? id = some s → built.get? id' = some s' →
    took id s cell → took id' s' cell → id = id'

/-- For one more identifier only cells are taken that were not taken before. -/
theorem Ledger.insert {kind : CellKind} {took : Bytes → Store → Ref kind → Prop} {built : Built}
    {next next' : Nat} (ledger : Ledger took built next) (further : next ≤ next') {id : Bytes}
    {s : Store} (new : ∀ {cell}, took id s cell → next ≤ cell.index ∧ cell.index < next') :
    Ledger took (built.insert id s) next' := by
  constructor
  · intro id' s' cell found own
    obtain ⟨rfl, rfl⟩ | before := built_insert found
    · exact (new own).2
    · exact Nat.lt_of_lt_of_le (ledger.taken before own) further
  · intro id₁ id₂ s₁ s₂ cell found₁ found₂ own₁ own₂
    obtain ⟨rfl, rfl⟩ | before₁ := built_insert found₁
    · obtain ⟨rfl, -⟩ | before₂ := built_insert found₂
      · rfl
      · exact absurd (ledger.taken before₂ own₂) (Nat.not_lt.mpr (new own₁).1)
    · obtain ⟨rfl, rfl⟩ | before₂ := built_insert found₂
      · exact absurd (ledger.taken before₁ own₁) (Nat.not_lt.mpr (new own₂).1)
      · exact ledger.sole before₁ before₂ own₁ own₂

/-- All that was built agrees with the records, and its memory cells are empty. -/
structure Accords (r : Resolver) (records : SortedMap Bytes Bytes) (built : Built) (w : World) :
    Prop where
  describes : ∀ {id s}, built.get? id = some s → r.Describes records built id s
  cells : Ledger (r.TookCell records) built w.memories.next
  blank : ∀ {id s cell}, built.get? id = some s → r.TookCell records id s cell → Blank cell w
  tokens : Ledger (fun _ => TookToken) built w.tokens.next

section Building

variable {r : Resolver} {bootstrap : Store} {records : SortedMap Bytes Bytes}
  {keep : World → Prop} {entry id : Bytes} {built : Built} {w w' : World} {s : Store}

theorem BuiltFor.insert {names : List String} {stores : List Store}
    (below : BuiltFor built names stores) (unbuilt : built.get? id = none) :
    BuiltFor (built.insert id s) names stores := by
  refine below.imp fun name s' found => ?_
  rw [SortedMap.get?_insert_of_ne _ ?_, found]
  intro same
  rw [same, unbuilt] at found
  cases found

theorem Describes.insert {id' : Bytes} {s' : Store} (h : r.Describes records built id' s')
    (unbuilt : built.get? id = none) : r.Describes records (built.insert id s) id' s' := by
  cases h with
  | simple found => exact .simple found
  | sharded found below => exact .sharded found (below.insert unbuilt)
  | redundant found below named unnamed =>
    refine .redundant found (below.insert unbuilt) ?_ unnamed
    intro name dedup
    have stored := named name dedup
    rw [SortedMap.get?_insert_of_ne _ ?_, stored]
    intro same
    rw [same, unbuilt] at stored
    cases stored

theorem Accords.empty (w : World) : r.Accords records .empty w :=
  ⟨nofun, ⟨nofun, nofun⟩, nofun, nofun, nofun⟩

theorem Accords.grow (h : r.Accords records built w) (grows : Grows w w') :
    r.Accords records built w' where
  describes := h.describes
  cells := ⟨fun found own => Nat.lt_of_lt_of_le (h.cells.taken found own) grows.memories,
    h.cells.sole⟩
  blank found took := (h.blank found took).grow grows
  tokens := ⟨fun found own => Nat.lt_of_lt_of_le (h.tokens.taken found own) grows.tokens,
    h.tokens.sole⟩

theorem Accords.insert (h : r.Accords records built w) (grows : Grows w w')
    (unbuilt : built.get? id = none) (describes : r.Describes records built id s)
    (cells : ∀ {cell}, r.TookCell records id s cell → w.memories.next ≤ cell.index ∧ Blank cell w')
    (tokens : ∀ {token}, TookToken s token →
      w.tokens.next ≤ token.index ∧ token.index < w'.tokens.next) :
    r.Accords records (built.insert id s) w' where
  describes {id' s'} found := by
    obtain ⟨rfl, rfl⟩ | before := built_insert found
    · exact describes.insert unbuilt
    · exact (h.describes before).insert unbuilt
  cells := h.cells.insert grows.memories fun took => ⟨(cells took).1, (cells took).2.taken⟩
  blank {id' s' cell} found took := by
    obtain ⟨rfl, rfl⟩ | before := built_insert found
    · exact (cells took).2
    · exact (h.blank before took).grow grows
  tokens := h.tokens.insert grows.tokens tokens

theorem accords_constructs (backed : OverMemory r bootstrap records keep entry) :
    Constructs r bootstrap records entry fun built w => keep w ∧ r.Accords records built w where
  reads accords run := by
    obtain ⟨stored, kept, grows⟩ := backed.reads accords.1 run
    exact ⟨stored, kept, accords.2.grow grows⟩
  reports event accords := ⟨backed.reporting event accords.1, accords.2.grow (.reporting _ event)⟩
  makes {built w id s w'} path unbuilt accords made := by
    obtain ⟨kept, accords⟩ := accords
    cases made with
    | @simple url s w w' found run =>
      rw [backed.run_create path found] at run
      cases run
      refine ⟨backed.withMemory (backed.reporting _ kept), ?_⟩
      refine accords.insert ((Grows.reporting w _).trans (.withMemory _)) unbuilt (.simple found)
        ?_ nofun
      intro cell took
      cases took with
      | simple => exact ⟨Nat.le_refl _, blank_withMemory (w.reporting _)⟩
    | sharded found below some =>
      exact ⟨backed.withPool kept,
        accords.insert (.withPool w) unbuilt (.sharded found below) nofun nofun⟩
    | unnamed found dedup below some few =>
      refine ⟨backed.withToken (backed.withMemory kept), ?_⟩
      refine accords.insert ((Grows.withMemory w).trans (.withToken _)) unbuilt
        (.redundant found below ?_ fun _ => ⟨_, rfl⟩) ?_ ?_
      · intro name named
        rw [dedup] at named
        cases named
      · intro cell took
        cases took with
        | unnamed => exact ⟨Nat.le_refl _, (blank_withMemory w).grow (.withToken _)⟩
      · intro token took
        cases took with
        | redundant => exact ⟨Nat.le_refl _, Nat.lt_succ_self _⟩
    | named found dedup stored below some few =>
      refine ⟨backed.withToken kept, ?_⟩
      refine accords.insert (.withToken w) unbuilt (.redundant found below ?_ ?_) ?_ ?_
      · intro name named
        rw [dedup] at named
        cases named
        exact stored
      · intro unnamed
        rw [dedup] at unnamed
        cases unnamed
      · intro cell took
        cases took with
        | unnamed found' unnamed =>
          rw [found] at found'
          cases found'
          rw [dedup] at unnamed
          cases unnamed
      · intro token took
        cases took with
        | redundant => exact ⟨Nat.le_refl _, Nat.lt_succ_self _⟩

end Building

section Cells

variable {r : Resolver} {records : SortedMap Bytes Bytes} {built : Built} {w : World}
  {id : Bytes} {s s' : Store}

/-- A redundant store was built for a redundant record, and has the dedup store that the record
    names, or one of its own. -/
theorem described_redundant (accords : r.Accords records built w) {policy : ReplicaPolicy}
    {backs : List Store} {dedup : DedupScheme} {offload : Store}
    (found : built.get? id = some (.redundant policy backs dedup offload)) :
    ∃ record, r.described records id = some (.redundant record) ∧
      (∀ name, record.dedupRef? = some name → built.get? (Bytes.ofText name) = some offload) ∧
      (record.dedupRef? = none → ∃ cell, offload = .memory cell) := by
  cases accords.describes found with
  | redundant described below named unnamed => exact ⟨_, described, named, unnamed⟩

/-- The stores over which the data of a store are spread were built for identifiers that its
    identifier leads to. -/
theorem spans_described (accords : r.Accords records built w) (found : built.get? id = some s)
    (spans : Spans s s') : ∃ id', r.HeldBy records id id' ∧ built.get? id' = some s' := by
  induction spans generalizing id with
  | refl s => exact ⟨id, .refl, found⟩
  | sharded member _ ih =>
    cases accords.describes found with
    | sharded described below =>
      obtain ⟨name, listed, stored⟩ := below.found member
      obtain ⟨id', path, found'⟩ := ih stored
      exact ⟨id', .head ⟨_, described, List.mem_map_of_mem listed⟩ path, found'⟩
  | redundant member _ ih =>
    cases accords.describes found with
    | redundant described below named unnamed =>
      obtain ⟨name, listed, stored⟩ := below.found member
      obtain ⟨id', path, found'⟩ := ih stored
      exact ⟨id', .head ⟨_, described, List.mem_map_of_mem listed⟩ path, found'⟩

/-- A leaf was taken for a simple record. -/
theorem leaf_described (accords : r.Accords records built w) (found : built.get? id = some s)
    {cell : Ref .memory} (leaf : Leaf s cell) :
    ∃ id' url, r.HeldBy records id id' ∧ r.described records id' = some (.simple url) ∧
      built.get? id' = some (.memory cell) := by
  obtain ⟨id', path, found'⟩ := spans_described accords found (leaf_iff_spans.mp leaf)
  cases accords.describes found' with
  | simple described => exact ⟨id', _, path, described, found'⟩

/-- A memory cell that is a leaf of stores of two identifiers was taken for a simple record that
    both of them lead to. -/
theorem shared_leaf (accords : r.Accords records built w) {id' : Bytes}
    (found : built.get? id = some s) (found' : built.get? id' = some s') {cell : Ref .memory}
    (leaf : Leaf s cell) (leaf' : Leaf s' cell) :
    ∃ ref url, r.HeldBy records id ref ∧ r.HeldBy records id' ref ∧
      r.described records ref = some (.simple url) := by
  obtain ⟨ref, url, path, described, stored⟩ := leaf_described accords found leaf
  obtain ⟨ref', -, path', -, stored'⟩ := leaf_described accords found' leaf'
  obtain rfl := accords.cells.sole stored stored' .simple .simple
  exact ⟨ref, url, path, path', described⟩

/-- No dedup store without a name has a cell that was taken for a simple record. -/
theorem unnamed_apart (accords : r.Accords records built w) {record : RedundantRecord}
    {policy : ReplicaPolicy} {backs : List Store} {dedup : DedupScheme} {offload : Store}
    (found : built.get? id = some (.redundant policy backs dedup offload))
    (described : r.described records id = some (.redundant record))
    (unnamed : record.dedupRef? = none) {id' : Bytes} (found' : built.get? id' = some s')
    {cell : Ref .memory} (leaf : Leaf offload cell) : ¬ Leaf s' cell := by
  intro leaf'
  obtain ⟨ref, url, -, simple, stored⟩ := leaf_described accords found' leaf'
  cases accords.describes found with
  | redundant found'' below named private' =>
    rw [described] at found''
    cases found''
    obtain ⟨cell', rfl⟩ := private' unnamed
    cases leaf with
    | memory =>
      obtain rfl := accords.cells.sole found stored (.unnamed described unnamed) .simple
      rw [described] at simple
      cases simple

end Cells

end Resolver

end StoreGraph
