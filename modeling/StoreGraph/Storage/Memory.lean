import StoreGraph.Storage

/-! # In-memory stores

A store over a memory cell. Keys are shown in lexicographic order from a snapshot, so a visitor may
change the same store while it is being shown its keys. Stores can be nested in it under names that
do not meet its keys.
-/

namespace StoreGraph

namespace Memory

def create : StoreM (Ref .memory) := do
  let w ← get
  let (cell, memories) := w.memories.alloc {}
  set { w with memories }
  return cell

def update (cell : Ref .memory) (f : Memory → Memory) : StoreM Unit :=
  modify fun w => { w with memories := w.memories.modify cell f }

def read (cell : Ref .memory) : StoreM Memory := return (← get).memories.get cell

/-- The store nested under a name; it is created when the name is new. -/
def nested (cell : Ref .memory) (name : Bytes) : StoreM (Ref .memory) := do
  match (← read cell).namespaces.get? name with
  | some inner => return inner
  | none =>
    let inner ← create
    update cell fun m => { m with namespaces := m.namespaces.insert name inner }
    return inner

/-- Show the names of the nested stores to a visitor, in lexicographic order. -/
def visitNamespaces {τ : Type} (cell : Ref .memory) (visit : Bytes → VisitM τ Unit) :
    VisitM τ Unit := do
  let snapshot ← StoreM.visiting (read cell)
  snapshot.namespaces.keys.forM visit

/-- Forget the store nested under a name. -/
def dropNested (cell : Ref .memory) (name : Bytes) : StoreM Unit :=
  update cell fun m => { m with namespaces := m.namespaces.erase name }

end Memory

def Storage.memory (cell : Ref .memory) : Storage where
  put key value := Memory.update cell (·.put key value)
  get key := do
    match (← Memory.read cell).entries.get? key with
    | some value => return value
    | none => throw .notFound
  del key := Memory.update cell (·.del key)
  keys visit := do
    let snapshot ← StoreM.visiting (Memory.read cell)
    snapshot.entries.keys.forM visit
  clear? := some (Memory.update cell (·.clear))

end StoreGraph
