import StoreGraph.Dedup.Scheme
import StoreGraph.ReplicaPolicy

/-! # Redundant stores

Every value is kept by several stores. Writes and reads follow a policy; deleting and closing reach
every store and report all failures. All keys are shown store by store, and a dedup sees to it that
a key held by several stores is shown once. What the dedup remembers belongs to one enumeration: it
is cleared, and a new epoch begun, when the enumeration ends.
-/

namespace StoreGraph.Storage

/-- How an enumeration over several stores ended. -/
structure Sweep where
  /-- The failure with which the visitor or the dedup stopped the enumeration, if one did. -/
  stopped : Option Error := none
  /-- The failures of stores to show their keys. -/
  failures : List Error := []
  deriving Inhabited

/-- Show a key to a visitor unless it was shown before. The visitor's second state tells whether the
    last key shown stopped the enumeration. -/
def visitOnce {τ : Type} (offload : Storage) (dedup : DedupScheme) (visit : Bytes → VisitM τ Unit)
    (key : Bytes) : VisitM (τ × Bool) Unit := do
  let outcome ← attempt do
    if ← StoreM.visiting (dedup.isSaved offload key) then return
    StoreM.visiting (dedup.save offload key)
    VisitM.besides (visit key)
  VisitM.note fun (t, _) => (t, !outcome.isOk)
  ofExcept outcome

/-- Show the keys of one store after the other, each key once. A store that fails on its own is
    passed over. -/
def sweep {τ : Type} (offload : Storage) (dedup : DedupScheme) (visit : Bytes → VisitM τ Unit) :
    List (String × Storage) → VisitM τ Sweep
  | [] => return {}
  | (doing, back) :: rest => do
    match ← VisitM.withState false (back.keys (visitOnce offload dedup visit)) with
    | (.error e, true) => return { stopped := some e }
    | (.error e, false) =>
      let later ← sweep offload dedup visit rest
      return { later with failures := .context doing e :: later.failures }
    | (.ok (), _) => sweep offload dedup visit rest

def redundant (policy : ReplicaPolicy) (backs : List Storage) (dedup : DedupScheme)
    (offload : Storage) : Storage where
  put key value := policy.write (backs.map (·.put key value))
  get key := policy.read (backs.map (·.get key))
  del key := do
    let failures ← gatherFailures (numbered "delete on storage" (backs.map (·.del key)))
    ofExcept (Error.ofFailures failures)
  keys visit := do
    let swept ← sweep offload dedup visit (numbered "keys of storage" backs)
    let cleared ← StoreM.visiting <|
      gatherFailures [("clear iteration dedup", dedup.clear offload)]
    StoreM.visiting dedup.reset
    match swept.stopped with
    | some e => throw e
    | none => ofExcept (Error.ofFailures (swept.failures ++ cleared))
  close := do
    let failures ← gatherFailures (numbered "close on storage" (backs.map (·.close)))
    ofExcept (Error.ofFailures failures)

end StoreGraph.Storage
