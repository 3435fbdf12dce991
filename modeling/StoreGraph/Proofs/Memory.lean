import StoreGraph.Proofs.Action
import StoreGraph.Storage.Memory

/-! # In-memory stores, run

What each operation of a store over a memory cell answers and does to the cells of the world. A
write touches the cell it is made to and no other (`entries_changeMemory`).
-/

namespace StoreGraph

namespace World

/-- The entries of a memory cell. -/
def entries (w : World) (cell : Ref .memory) : SortedMap Bytes Bytes :=
  (w.memories.get cell).entries

/-- The world in which the contents of a memory cell are changed. -/
def changeMemory (w : World) (cell : Ref .memory) (f : Memory → Memory) : World :=
  { w with memories := w.memories.modify cell f }

theorem entries_changeMemory (w : World) (cell cell' : Ref .memory) (f : Memory → Memory) :
    (w.changeMemory cell f).entries cell' =
      if cell' = cell then (f (w.memories.get cell)).entries else w.entries cell' := by
  simp only [entries, changeMemory, Table.modify, Table.get_set]
  split <;> rfl

theorem entries_put (w : World) (cell cell' : Ref .memory) (key value : Bytes) :
    (w.changeMemory cell (·.put key value)).entries cell' =
      if cell' = cell then (w.entries cell).insert key value else w.entries cell' :=
  entries_changeMemory w cell cell' _

theorem entries_del (w : World) (cell cell' : Ref .memory) (key : Bytes) :
    (w.changeMemory cell (·.del key)).entries cell' =
      if cell' = cell then (w.entries cell).erase key else w.entries cell' :=
  entries_changeMemory w cell cell' _

theorem entries_clear (w : World) (cell cell' : Ref .memory) :
    (w.changeMemory cell (·.clear)).entries cell' =
      if cell' = cell then .empty else w.entries cell' :=
  entries_changeMemory w cell cell' _

end World

namespace Storage

@[simp] theorem run_memory_put (cell : Ref .memory) (key value : Bytes) (w : World) :
    ((memory cell).put key value).run w = .ok () (w.changeMemory cell (·.put key value)) := rfl

@[simp] theorem run_memory_del (cell : Ref .memory) (key : Bytes) (w : World) :
    ((memory cell).del key).run w = .ok () (w.changeMemory cell (·.del key)) := rfl

@[simp] theorem run_memory_get (cell : Ref .memory) (key : Bytes) (w : World) :
    ((memory cell).get key).run w = match (w.entries cell).get? key with
      | some value => .ok value w
      | none => .error .notFound w := by
  simp only [memory, Memory.read, World.entries, EStateM.run_bind, EStateM.run_get,
    EStateM.run_pure]
  cases (w.memories.get cell).entries.get? key with
  | none => rfl
  | some value => rfl

/-- Looking up a key answers what the cell holds under it, and changes nothing. -/
@[simp] theorem run_memory_find (cell : Ref .memory) (key : Bytes) (w : World) :
    ((memory cell).find? key).run w = .ok ((w.entries cell).get? key) w := by
  simp only [find?, EStateM.run_bind, run_attempt, run_memory_get]
  cases (w.entries cell).get? key with
  | none => rfl
  | some value => rfl

/-- Listing the keys of a cell changes nothing. -/
theorem run_memory_allKeys (cell : Ref .memory) (w : World) :
    (memory cell).allKeys.run w = .ok (w.entries cell).keys w := by
  have shown : ((memory cell).keys fun key => VisitM.note (· ++ [key])).run (w, []) =
    .ok () (w, (w.entries cell).keys) := VisitM.run_forM_note (w.entries cell).keys [] w
  simp only [allKeys, VisitM.run_collect, shown]

end Storage

end StoreGraph
