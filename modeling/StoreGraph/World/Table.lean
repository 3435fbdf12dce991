import StoreGraph.SortedMap

/-! # Tables of cells

The mutable parts of live stores are cells, kept in tables and named by references. A table answers
every reference, a cell that was never written holding the default value, so look-ups are total, and
writing one cell never touches another (`get_set`).
-/

namespace StoreGraph

/-- What a cell holds; a reference to one kind of cell never names another kind. -/
inductive CellKind where
  /-- The entries and namespaces of an in-memory store. -/
  | memory
  /-- The entries, fault rules and recorded calls of a probe. -/
  | probe
  /-- The opened shards of a shard pool. -/
  | pool
  /-- The ages of the keys that a naive dedup remembers. -/
  | ages
  /-- The current token of an offloaded dedup. -/
  | token
  deriving Repr, DecidableEq

structure Ref (kind : CellKind) where
  index : Nat
  deriving Repr, DecidableEq

structure Table (kind : CellKind) (α : Type) where
  /-- The cells that were written, by index. -/
  cells : SortedMap Nat α := .empty
  /-- Every index from here on is unused. -/
  next : Nat := 0

namespace Table

variable {kind : CellKind} {α : Type}

instance : Inhabited (Table kind α) := ⟨{}⟩

def get [Inhabited α] (t : Table kind α) (r : Ref kind) : α := (t.cells.get? r.index).getD default

def set (t : Table kind α) (r : Ref kind) (contents : α) : Table kind α :=
  { t with cells := t.cells.insert r.index contents }

def modify [Inhabited α] (t : Table kind α) (r : Ref kind) (f : α → α) : Table kind α :=
  t.set r (f (t.get r))

/-- Take a new cell with the given contents. -/
def alloc (t : Table kind α) (contents : α) : Ref kind × Table kind α :=
  (⟨t.next⟩, { cells := t.cells.insert t.next contents, next := t.next + 1 })

theorem get_set [Inhabited α] (t : Table kind α) (r r' : Ref kind) (contents : α) :
    (t.set r contents).get r' = if r' = r then contents else t.get r' := by
  obtain ⟨i⟩ := r
  obtain ⟨j⟩ := r'
  by_cases h : j = i <;> simp [get, set, SortedMap.get?_insert, h]

@[simp] theorem get_set_self [Inhabited α] (t : Table kind α) (r : Ref kind) (contents : α) :
    (t.set r contents).get r = contents := by simp [get_set]

theorem get_set_of_ne [Inhabited α] (t : Table kind α) {r r' : Ref kind} (h : r' ≠ r)
    (contents : α) : (t.set r contents).get r' = t.get r' := by simp [get_set, h]

@[simp] theorem get_alloc_self [Inhabited α] (t : Table kind α) (contents : α) :
    (t.alloc contents).2.get (t.alloc contents).1 = contents := by simp [alloc, get]

theorem get_alloc_of_lt [Inhabited α] (t : Table kind α) {r : Ref kind} (h : r.index < t.next)
    (contents : α) : (t.alloc contents).2.get r = t.get r := by
  have hne : r.index ≠ t.next := by omega
  simp [alloc, get, SortedMap.get?_insert, hne]

end Table

end StoreGraph
