import StoreGraph.Proofs.Refusals
import StoreGraph.Proofs.Shards.Access

/-! # Requests for keys

What is answered to a request for a key, and what becomes of the cells of the world. A request that
is made to a plain store is answered from the cell of this store and changes no other
(`PlainStore.asks`); one that is made to a sharded store is passed on to a shard.
-/

namespace StoreGraph

/-- A request for a key. -/
inductive KeyRequest where
  | put (key value : Bytes)
  | get (key : Bytes)
  | del (key : Bytes)

namespace KeyRequest

def key : KeyRequest → Bytes
  | put key _ | get key | del key => key

/-- Make a request; the answer is the value that was read, if one is read. -/
def ask (s : Storage) : KeyRequest → StoreM (Option Bytes)
  | put key value => do
    s.put key value
    return none
  | get key => do
    let value ← s.get key
    return some value
  | del key => do
    s.del key
    return none

/-- What is answered from given entries. -/
def answer (entries : SortedMap Bytes Bytes) : KeyRequest → Except Error (Option Bytes)
  | put _ _ | del _ => .ok none
  | get key => match entries.get? key with
    | some value => .ok (some value)
    | none => .error .notFound

/-- What becomes of given entries. -/
def apply (entries : SortedMap Bytes Bytes) : KeyRequest → SortedMap Bytes Bytes
  | put key value => entries.insert key value
  | get _ => entries
  | del key => entries.erase key

variable (request : KeyRequest) (w : World)

/-- A request to a memory cell concerns this cell only. -/
theorem ask_memory (cell : Ref .memory) :
    outcome (request.ask (.memory cell)) w = request.answer (w.entries cell) ∧
      (∀ pool : ShardPool,
        pool.stateIn (stateAfter (request.ask (.memory cell)) w) = pool.stateIn w) ∧
      (stateAfter (request.ask (.memory cell)) w).probes = w.probes ∧
      (stateAfter (request.ask (.memory cell)) w).memories.next = w.memories.next ∧
      ∀ other, (stateAfter (request.ask (.memory cell)) w).entries other =
        if other = cell then request.apply (w.entries cell) else w.entries other := by
  cases request with
  | put key value =>
    exact ⟨rfl, fun _ => rfl, rfl, rfl, fun other => w.entries_put cell other key value⟩
  | del key => exact ⟨rfl, fun _ => rfl, rfl, rfl, fun other => w.entries_del cell other key⟩
  | get key =>
    have same (other : Ref .memory) : w.entries other =
        if other = cell then w.entries cell else w.entries other := by
      split
      · subst other
        rfl
      · rfl
    simp only [ask, outcome, stateAfter, EStateM.run_bind, Storage.run_memory_get, answer]
    cases (w.entries cell).get? key <;> exact ⟨rfl, fun _ => rfl, rfl, rfl, same⟩

def call : KeyRequest → Call
  | put key value => .put key value
  | get key => .get key
  | del key => .del key

/-- What a probe answers: the failure that its rules have for the request, if they have one. -/
def probeAnswer (p : Probe) (request : KeyRequest) : Except Error (Option Bytes) :=
  match (FaultRule.consult request.call.op request.call.key? p.rules).1 with
  | some e => .error e
  | none => request.answer p.entries

/-- What becomes of a probe. -/
def applyProbe (p : Probe) (request : KeyRequest) : Probe where
  entries :=
    match (FaultRule.consult request.call.op request.call.key? p.rules).1 with
    | some _ => p.entries
    | none => request.apply p.entries
  rules := (FaultRule.consult request.call.op request.call.key? p.rules).2
  calls := p.calls ++ [request.call]

/-- The world in which a request to a probe was let through. -/
def passed (cell : Ref .probe) : World :=
  match request with
  | put key value => (w.entered cell (.put key value)).changeProbe cell (·.put key value)
  | get key => w.entered cell (.get key)
  | del key => (w.entered cell (.del key)).changeProbe cell (·.del key)

theorem run_ask_probe (cell : Ref .probe) (traits : ProbeTraits) :
    (request.ask (.probe cell traits)).run w =
      match w.fault? cell request.call, request.answer (w.probed cell) with
      | some e, _ => .error e (w.entered cell request.call)
      | none, .ok value => .ok value (request.passed w cell)
      | none, .error e => .error e (request.passed w cell) := by
  cases request with
  | put key value =>
    have write : ((Storage.probe cell traits).put key value).run w = _ :=
      Probe.run_write cell w (.put key value) (·.put key value)
    simp only [ask, EStateM.run_bind, write, call, answer, passed]
    cases w.fault? cell (.put key value) <;> rfl
  | del key =>
    have write : ((Storage.probe cell traits).del key).run w = _ :=
      Probe.run_write cell w (.del key) (·.del key)
    simp only [ask, EStateM.run_bind, write, call, answer, passed]
    cases w.fault? cell (.del key) <;> rfl
  | get key =>
    simp only [ask, EStateM.run_bind, Storage.run_probe_get, call, answer, passed]
    cases w.fault? cell (.get key) with
    | some e => rfl
    | none => cases (w.probed cell).get? key <;> rfl

theorem probe_entered (cell other : Ref .probe) (made : Call) :
    (w.entered cell made).probes.get other =
      if other = cell then
        { (w.probes.get cell).record made with
          rules := (FaultRule.consult made.op made.key? (w.rules cell)).2 }
      else w.probes.get other := by
  simp only [World.entered, World.ruled, World.changeProbe, Table.modify, Table.get_set, if_true]
  split <;> rfl

theorem probe_passed (cell other : Ref .probe) :
    (request.passed w cell).probes.get other =
      if other = cell then
        { (w.probes.get cell).record request.call with
          entries := request.apply (w.probed cell)
          rules := (FaultRule.consult request.call.op request.call.key? (w.rules cell)).2 }
      else w.probes.get other := by
  by_cases here : other = cell
  · subst here
    cases request <;>
      simp [passed, World.changeProbe, Table.modify, probe_entered, call, apply] <;> rfl
  · cases request <;>
      simp [passed, World.changeProbe, Table.modify, Table.get_set, probe_entered, here]

/-- A request to a probe concerns this probe only. -/
theorem ask_probe (cell : Ref .probe) (traits : ProbeTraits) :
    outcome (request.ask (.probe cell traits)) w = request.probeAnswer (w.probes.get cell) ∧
      (∀ pool : ShardPool,
        pool.stateIn (stateAfter (request.ask (.probe cell traits)) w) = pool.stateIn w) ∧
      (stateAfter (request.ask (.probe cell traits)) w).memories = w.memories ∧
      ∀ other, (stateAfter (request.ask (.probe cell traits)) w).probes.get other =
        if other = cell then request.applyProbe (w.probes.get cell) else w.probes.get other := by
  have run := request.run_ask_probe w cell traits
  have consulted : (FaultRule.consult request.call.op request.call.key?
      (w.probes.get cell).rules).1 = w.fault? cell request.call := rfl
  unfold probeAnswer applyProbe
  rw [consulted]
  cases fault : w.fault? cell request.call with
  | some e =>
    rw [fault] at run
    rw [outcome_error run, stateAfter_error run]
    exact ⟨rfl, fun _ => rfl, rfl, fun other => probe_entered w cell other request.call⟩
  | none =>
    rw [fault] at run
    have pools (pool : ShardPool) : pool.stateIn (request.passed w cell) = pool.stateIn w := by
      cases request <;> rfl
    have memories : (request.passed w cell).memories = w.memories := by
      cases request <;> rfl
    have entries : w.probed cell = (w.probes.get cell).entries := rfl
    rw [entries] at run
    cases answered : request.answer (w.probes.get cell).entries with
    | ok value =>
      rw [answered] at run
      rw [outcome_ok run, stateAfter_ok run]
      exact ⟨rfl, pools, memories, fun other => request.probe_passed w cell other⟩
    | error e =>
      rw [answered] at run
      rw [outcome_error run, stateAfter_error run]
      exact ⟨rfl, pools, memories, fun other => request.probe_passed w cell other⟩

/-- A sharded store passes requests on to the shard that owns the key. -/
theorem ask_sharded (pool : ShardPool) (stock : List Storage) :
    request.ask (.sharded pool stock) = (do
      let slot ← pool.slot stock.length (pool.owner request.key)
      request.ask (slot.choose stock .memory .nop)) := by
  cases request <;> simp [ask, Storage.sharded, key]

end KeyRequest

namespace PlainStore

/-- All that a plain store keeps. -/
def kept : PlainStore → World → SortedMap Bytes Bytes ⊕ Probe
  | memory cell, w => .inl (w.entries cell)
  | probe cell _, w => .inr (w.probes.get cell)

/-- What a store answers that keeps something. -/
def answer (request : KeyRequest) : SortedMap Bytes Bytes ⊕ Probe → Except Error (Option Bytes)
  | .inl entries => request.answer entries
  | .inr p => request.probeAnswer p

/-- What it keeps after a request. -/
def apply (request : KeyRequest) : SortedMap Bytes Bytes ⊕ Probe → SortedMap Bytes Bytes ⊕ Probe
  | .inl entries => .inl (request.apply entries)
  | .inr p => .inr (request.applyProbe p)

/-- A request to a plain store is answered from what the store keeps, and changes nothing else. -/
theorem asks (p : PlainStore) (request : KeyRequest) (w : World) :
    outcome (request.ask p.store.storage) w = answer request (p.kept w) ∧
      p.kept (stateAfter (request.ask p.store.storage) w) = apply request (p.kept w) ∧
      (∀ q, p.Apart q → q.kept (stateAfter (request.ask p.store.storage) w) = q.kept w) ∧
      ∀ pool : ShardPool,
        pool.stateIn (stateAfter (request.ask p.store.storage) w) = pool.stateIn w := by
  cases p with
  | memory cell =>
    obtain ⟨answered, pools, probes, -, entries⟩ := request.ask_memory w cell
    refine ⟨answered, ?_, ?_, pools⟩
    · exact congrArg Sum.inl ((entries cell).trans (if_pos rfl))
    · intro q apart
      cases q with
      | probe cell' traits => exact congrArg (fun t => Sum.inr (t.get cell')) probes
      | memory cell' =>
        have different : cell' ≠ cell := Ne.symm apart
        exact congrArg Sum.inl ((entries cell').trans (if_neg different))
  | probe cell traits =>
    obtain ⟨answered, pools, memories, probes⟩ := request.ask_probe w cell traits
    refine ⟨answered, ?_, ?_, pools⟩
    · exact congrArg Sum.inr ((probes cell).trans (if_pos rfl))
    · intro q apart
      cases q with
      | memory cell' => exact congrArg (fun t => Sum.inl (t.get cell').entries) memories
      | probe cell' traits' =>
        have different : cell' ≠ cell := Ne.symm apart
        exact congrArg Sum.inr ((probes cell').trans (if_neg different))

end PlainStore

end StoreGraph
