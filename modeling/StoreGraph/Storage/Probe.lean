import StoreGraph.Storage

/-! # Probes

A store over a probe cell: an in-memory store that first records each call, then consults its fault
rules, and acts only if none of them produces a failure. A rule for the occasion `visit` is
consulted before a key is shown to a visitor, and ends the enumeration if it produces a failure.
-/

namespace StoreGraph

/-- What a probe is like for as long as it lives. -/
structure ProbeTraits where
  /-- Can every key be removed at once? -/
  clearable : Bool := false
  /-- Does an enumeration go on after its visitor failed? -/
  stubborn : Bool := false
  deriving Repr, DecidableEq

namespace Probe

/-- Take a new probe cell without entries. -/
def create (rules : List FaultRule) : StoreM (Ref .probe) := do
  let w ← get
  let (cell, probes) := w.probes.alloc { rules }
  set { w with probes }
  return cell

def update (cell : Ref .probe) (f : Probe → Probe) : StoreM Unit :=
  modify fun w => { w with probes := w.probes.modify cell f }

def read (cell : Ref .probe) : StoreM Probe := return (← get).probes.get cell

/-- Consult the fault rules at an occasion. -/
def consult (cell : Ref .probe) (op : ProbeOp) (key : Option Bytes) : StoreM Unit := do
  let (outcome, rules) := FaultRule.consult op key (← read cell).rules
  update cell ({ · with rules })
  match outcome with
  | some e => throw e
  | none => return

/-- Record a call and consult the fault rules about it. -/
def enter (cell : Ref .probe) (call : Call) : StoreM Unit := do
  update cell (·.record call)
  consult cell call.op call.key?

/-- The calls recorded so far; the record starts anew. -/
def takeCalls (cell : Ref .probe) : StoreM (List Call) := do
  let calls := (← read cell).calls
  update cell ({ · with calls := [] })
  return calls

def setRules (cell : Ref .probe) (rules : List FaultRule) : StoreM Unit :=
  update cell ({ · with rules })

end Probe

def Storage.probe (cell : Ref .probe) (traits : ProbeTraits) : Storage where
  put key value := do
    Probe.enter cell (.put key value)
    Probe.update cell (·.put key value)
  get key := do
    Probe.enter cell (.get key)
    match (← Probe.read cell).entries.get? key with
    | some value => return value
    | none => throw .notFound
  del key := do
    Probe.enter cell (.del key)
    Probe.update cell (·.del key)
  keys visit := do
    StoreM.visiting (Probe.enter cell .keys)
    let snapshot ← StoreM.visiting (Probe.read cell)
    snapshot.entries.keys.forM fun key => do
      StoreM.visiting (Probe.consult cell .visit (some key))
      if traits.stubborn then discard (attempt (visit key)) else visit key
  close := Probe.enter cell .close
  clear? :=
    if traits.clearable then
      some do
        Probe.enter cell .clear
        Probe.update cell (·.clear)
    else none

end StoreGraph
