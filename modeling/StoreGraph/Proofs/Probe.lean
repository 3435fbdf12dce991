import StoreGraph.Proofs.Action
import StoreGraph.Store

/-! # Probes, run

A probe stands for any store of which single calls may fail without effect. Its fault rules alone
decide which calls do: `fault?` is the failure of a call, and every operation has one equation that
says what it does without one. Consulting rules uses them up, but a rule never becomes another rule
(`sources_of_consult`). Actions are judged by what they can come to: one that only reads (`Tries`)
answers or fails, and one that writes (`Writes`) has its effect or none.
-/

namespace StoreGraph

namespace FaultRule

/-- Rules under which no read fails as if the key were absent: by the contract of stores, "not
    found" is the answer of a read that went well. -/
def Candid (rules : List FaultRule) : Prop :=
  ∀ rule ∈ rules, rule.op = .get → rule.error.isNotFound = false

theorem candid_nil : Candid [] := nofun

/-- What is left of a list of rules comes from these rules. -/
theorem sources_of_consult {op : ProbeOp} {key : Option Bytes} {rules : List FaultRule}
    {rule : FaultRule} (left : rule ∈ (consult op key rules).2) :
    ∃ source ∈ rules, source.op = rule.op ∧ source.error = rule.error := by
  induction rules with
  | nil => cases left
  | cons first rest ih =>
    have later : rule ∈ (consult op key rest).2 →
        ∃ source ∈ first :: rest, source.op = rule.op ∧ source.error = rule.error := by
      intro member
      obtain ⟨source, listed, same⟩ := ih member
      exact ⟨source, List.mem_cons_of_mem _ listed, same⟩
    have own : rule.op = first.op → rule.error = first.error →
        ∃ source ∈ first :: rest, source.op = rule.op ∧ source.error = rule.error :=
      fun sameOp sameError => ⟨first, List.mem_cons_self, sameOp.symm, sameError.symm⟩
    have kept : rule ∈ rest →
        ∃ source ∈ first :: rest, source.op = rule.op ∧ source.error = rule.error :=
      fun member => ⟨rule, List.mem_cons_of_mem _ member, rfl, rfl⟩
    simp only [consult] at left
    split at left
    · split at left
      all_goals
        obtain same | member := List.mem_cons.mp left
        · exact own (by rw [same]) (by rw [same])
        · first
          | exact later member
          | exact kept member
    · obtain same | member := List.mem_cons.mp left
      · exact own (by rw [same]) (by rw [same])
      · exact later member

/-- A failure that rules produce is that of one of them, and the rule applies to the occasion. -/
theorem source_of_failure {op : ProbeOp} {key : Option Bytes} {rules : List FaultRule} {e : Error}
    (failed : (consult op key rules).1 = some e) :
    ∃ rule ∈ rules, rule.op = op ∧ rule.error = e := by
  induction rules with
  | nil => cases failed
  | cons first rest ih =>
    have later : (consult op key rest).1 = some e →
        ∃ rule ∈ first :: rest, rule.op = op ∧ rule.error = e := by
      intro failed
      obtain ⟨rule, listed, same⟩ := ih failed
      exact ⟨rule, List.mem_cons_of_mem _ listed, same⟩
    simp only [consult] at failed
    split at failed
    · rename_i applies
      have meant : first.op = op := by
        simp only [FaultRule.applies, Bool.and_eq_true, decide_eq_true_eq] at applies
        exact applies.1
      split at failed
      · exact later failed
      · exact later failed
      · exact ⟨first, List.mem_cons_self, meant, Option.some.inj failed⟩
      · exact ⟨first, List.mem_cons_self, meant, Option.some.inj failed⟩
    · exact later failed

theorem Candid.consult {rules : List FaultRule} (candid : Candid rules) (op : ProbeOp)
    (key : Option Bytes) : Candid (consult op key rules).2 := by
  intro rule left reads
  obtain ⟨source, listed, sameOp, sameError⟩ := sources_of_consult left
  rw [← sameError]
  exact candid source listed (sameOp.trans reads)

end FaultRule

namespace World

/-- The entries of a probe cell. -/
def probed (w : World) (cell : Ref .probe) : SortedMap Bytes Bytes := (w.probes.get cell).entries

/-- The fault rules of a probe cell. -/
def rules (w : World) (cell : Ref .probe) : List FaultRule := (w.probes.get cell).rules

/-- The world in which the state of a probe cell is changed. -/
def changeProbe (w : World) (cell : Ref .probe) (f : Probe → Probe) : World :=
  { w with probes := w.probes.modify cell f }

/-- The world in which a probe cell has other fault rules. -/
def ruled (w : World) (cell : Ref .probe) (rules : List FaultRule) : World :=
  w.changeProbe cell ({ · with rules })

/-- The failure that the fault rules produce for a call, if they produce one. -/
def fault? (w : World) (cell : Ref .probe) (call : Call) : Option Error :=
  (FaultRule.consult call.op call.key? (w.rules cell)).1

/-- The world in which a call was recorded and the fault rules were consulted about it. -/
def entered (w : World) (cell : Ref .probe) (call : Call) : World :=
  (w.changeProbe cell (·.record call)).ruled cell
    (FaultRule.consult call.op call.key? (w.rules cell)).2

variable (w : World) (cell : Ref .probe)

@[simp] theorem probed_changeProbe (f : Probe → Probe) :
    (w.changeProbe cell f).probed cell = (f (w.probes.get cell)).entries := by
  simp [probed, changeProbe, Table.modify]

@[simp] theorem rules_changeProbe (f : Probe → Probe) :
    (w.changeProbe cell f).rules cell = (f (w.probes.get cell)).rules := by
  simp [rules, changeProbe, Table.modify]

@[simp] theorem probed_ruled (rules : List FaultRule) :
    (w.ruled cell rules).probed cell = w.probed cell := by
  simp [ruled]
  rfl

@[simp] theorem rules_ruled (rules : List FaultRule) : (w.ruled cell rules).rules cell = rules := by
  simp [ruled]

@[simp] theorem probed_entered (call : Call) :
    (w.entered cell call).probed cell = w.probed cell := by
  simp [entered]
  rfl

@[simp] theorem rules_entered (call : Call) :
    (w.entered cell call).rules cell =
      (FaultRule.consult call.op call.key? (w.rules cell)).2 := by
  simp [entered]

/-- Without rules nothing fails. -/
theorem fault?_of_no_rules {w : World} {cell : Ref .probe} (none : w.rules cell = [])
    (call : Call) : w.fault? cell call = .none := by
  rw [fault?, none]
  rfl

/-- Of rules that are candid, a read that fails is not told that the key is absent. -/
theorem not_isNotFound_of_fault? {w : World} {cell : Ref .probe}
    (candid : FaultRule.Candid (w.rules cell)) {key : Bytes} {e : Error}
    (failed : w.fault? cell (.get key) = some e) : e.isNotFound = false := by
  obtain ⟨rule, listed, reads, same⟩ := FaultRule.source_of_failure failed
  exact same ▸ candid rule listed reads

end World

section Runs

variable (cell : Ref .probe) (w : World)

theorem Probe.run_setRules (rules : List FaultRule) :
    (Probe.setRules cell rules).run w = .ok () (w.ruled cell rules) := rfl

theorem Probe.run_consult (op : ProbeOp) (key : Option Bytes) :
    (Probe.consult cell op key).run w =
      match (FaultRule.consult op key (w.rules cell)).1 with
      | some e => .error e (w.ruled cell (FaultRule.consult op key (w.rules cell)).2)
      | none => .ok () (w.ruled cell (FaultRule.consult op key (w.rules cell)).2) := by
  simp only [Probe.consult, Probe.read, Probe.update, EStateM.run_bind, EStateM.run_get,
    EStateM.run_pure, EStateM.run_modify]
  change EStateM.run (match (FaultRule.consult op key (w.rules cell)).1 with
    | some e => _ | none => _) _ = _
  cases (FaultRule.consult op key (w.rules cell)).1 with
  | none => rfl
  | some e => rfl

theorem Probe.run_enter (call : Call) :
    (Probe.enter cell call).run w = match w.fault? cell call with
      | some e => .error e (w.entered cell call)
      | none => .ok () (w.entered cell call) := by
  have same : (w.changeProbe cell (·.record call)).rules cell = w.rules cell := by
    simp [Probe.record]
    rfl
  simp only [Probe.enter, EStateM.run_bind]
  change (Probe.consult cell call.op call.key?).run (w.changeProbe cell (·.record call)) = _
  rw [Probe.run_consult, same]
  rfl

/-- A call that writes: if the rules let it pass, then it changes the state. -/
def Probe.write (call : Call) (f : Probe → Probe) : StoreM Unit := do
  enter cell call
  update cell f

theorem Probe.run_write (call : Call) (f : Probe → Probe) :
    (Probe.write cell call f).run w = match w.fault? cell call with
      | some e => .error e (w.entered cell call)
      | none => .ok () ((w.entered cell call).changeProbe cell f) := by
  simp only [Probe.write, EStateM.run_bind, Probe.run_enter]
  cases w.fault? cell call with
  | none => rfl
  | some e => rfl

namespace Storage

variable (traits : ProbeTraits) (key value : Bytes)

theorem run_probe_get :
    ((probe cell traits).get key).run w =
      match w.fault? cell (.get key), (w.probed cell).get? key with
      | some e, _ => .error e (w.entered cell (.get key))
      | none, some value => .ok value (w.entered cell (.get key))
      | none, none => .error .notFound (w.entered cell (.get key)) := by
  have same : ((w.entered cell (.get key)).probes.get cell).entries = w.probed cell :=
    w.probed_entered cell (.get key)
  simp only [probe, EStateM.run_bind, Probe.run_enter]
  cases w.fault? cell (.get key) with
  | some e => rfl
  | none =>
    simp only [Probe.read, EStateM.run_bind, EStateM.run_get, EStateM.run_pure, same]
    cases (w.probed cell).get? key with
    | none => rfl
    | some value => rfl

end Storage

end Runs

namespace Probe

variable {cell : Ref .probe} {traits : ProbeTraits} {w w₁ w₂ w₃ : World}
  {entries : SortedMap Bytes Bytes}

/-! ## Actions that only read -/

/-- At most the calls were recorded and rules used up. -/
structure Reading (cell : Ref .probe) (w w' : World) : Prop where
  entries : w'.probed cell = w.probed cell
  candid : FaultRule.Candid (w.rules cell) → FaultRule.Candid (w'.rules cell)
  quiet : w.rules cell = [] → w'.rules cell = []

namespace Reading

theorem refl (w : World) : Reading cell w w := ⟨rfl, id, id⟩

theorem trans (first : Reading cell w₁ w₂) (second : Reading cell w₂ w₃) :
    Reading cell w₁ w₃ where
  entries := second.entries.trans first.entries
  candid candid := second.candid (first.candid candid)
  quiet none := second.quiet (first.quiet none)

theorem entered (cell : Ref .probe) (w : World) (call : Call) :
    Reading cell w (w.entered cell call) where
  entries := w.probed_entered cell call
  candid candid := by
    rw [World.rules_entered]
    exact candid.consult _ _
  quiet none := by
    rw [World.rules_entered, none]
    rfl

end Reading

/-- The action only reads. It answers as stated, or fails because the fault rules say so. -/
inductive Tries {α : Type} (cell : Ref .probe) (x : StoreM α) (w : World) (a : α) : Prop where
  | answers {w'} (reading : Reading cell w w') (run : x.run w = .ok a w')
  | fails {w' e} (reading : Reading cell w w') (faulty : w.rules cell ≠ [])
      (run : x.run w = .error e w')

namespace Tries

variable {α β : Type} {a : α} {b : β} {x : StoreM α} {g : α → StoreM β}

theorem pure (a : α) (w : World) : Tries cell (Pure.pure a) w a := .answers (.refl w) rfl

theorem bind (first : Tries cell x w a)
    (next : ∀ w', Reading cell w w' → Tries cell (g a) w' b) : Tries cell (x >>= g) w b := by
  cases first with
  | fails reading faulty run =>
    apply Tries.fails reading faulty
    rw [EStateM.run_bind, run]
  | answers reading run =>
    have opened : ∀ w', x.run w = .ok a w' → (x >>= g).run w = (g a).run w' := by
      intro w' run
      rw [EStateM.run_bind, run]
    cases next _ reading with
    | answers reading' run' =>
      exact .answers (reading.trans reading') ((opened _ run).trans run')
    | fails reading' faulty run' =>
      exact .fails (reading.trans reading') (mt reading.quiet faulty) ((opened _ run).trans run')

theorem inContext (doing : String) (h : Tries cell x w a) :
    Tries cell (withContext doing x) w a := by
  cases h with
  | answers reading run => exact .answers reading (by rw [run_withContext, run])
  | fails reading faulty run => exact .fails reading faulty (by rw [run_withContext, run])

theorem quiet (h : Tries cell x w a) (none : w.rules cell = []) :
    ∃ w', Reading cell w w' ∧ x.run w = .ok a w' := by
  cases h with
  | answers reading run => exact ⟨_, reading, run⟩
  | fails reading faulty run => exact absurd none faulty

end Tries

theorem faulty_of_fault? {call : Call} {e : Error} (failed : w.fault? cell call = some e) :
    w.rules cell ≠ [] := by
  intro none
  rw [World.fault?_of_no_rules none] at failed
  cases failed

theorem tries_find {key : Bytes} (candid : FaultRule.Candid (w.rules cell)) :
    Tries cell (Store.find? (.probe cell traits) key) w ((w.probed cell).get? key) := by
  have reading := Reading.entered cell w (.get key)
  cases fault : w.fault? cell (.get key) with
  | some e =>
    have real := World.not_isNotFound_of_fault? candid fault
    refine .fails reading (faulty_of_fault? fault) (e := e) ?_
    simp only [Store.find?, Storage.find?, Store.storage, EStateM.run_bind, run_attempt,
      Storage.run_probe_get, fault, real]
    rfl
  | none =>
    refine .answers reading ?_
    simp only [Store.find?, Storage.find?, Store.storage, EStateM.run_bind, run_attempt,
      Storage.run_probe_get, fault]
    cases (w.probed cell).get? key with
    | none => rfl
    | some value => rfl

theorem tries_report (event : Event) : Tries cell (StoreM.report event) w () := by
  have reading : Reading cell w { w with events := w.events ++ [event] } := ⟨rfl, id, id⟩
  exact .answers reading (StoreM.run_report event w)

/-! ## Actions that write -/

/-- The action leaves the given entries, or fails without effect. -/
inductive Writes (cell : Ref .probe) (x : StoreM Unit) (w : World)
    (entries : SortedMap Bytes Bytes) : Prop where
  | done {w'} (run : x.run w = .ok () w') (written : w'.probed cell = entries)
      (quiet : w.rules cell = [] → w'.rules cell = [])
      (candid : FaultRule.Candid (w.rules cell) → FaultRule.Candid (w'.rules cell))
  | failed {w' e} (run : x.run w = .error e w') (same : w'.probed cell = w.probed cell)
      (faulty : w.rules cell ≠ [])
      (candid : FaultRule.Candid (w.rules cell) → FaultRule.Candid (w'.rules cell))

theorem Writes.quiet {x : StoreM Unit} (writes : Writes cell x w entries)
    (none : w.rules cell = []) : ∃ w', x.run w = .ok () w' ∧ w'.rules cell = [] := by
  cases writes with
  | done run _ quiet => exact ⟨_, run, quiet none⟩
  | failed _ _ faulty => exact absurd none faulty

theorem writes_write (call : Call) (f : Probe → Probe) (kept : ∀ s, (f s).rules = s.rules)
    (w : World) (written : (f ((w.entered cell call).probes.get cell)).entries = entries) :
    Writes cell (Probe.write cell call f) w entries := by
  have run := Probe.run_write cell w call f
  have reading := Reading.entered cell w call
  cases fault : w.fault? cell call with
  | some e =>
    rw [fault] at run
    exact .failed run reading.entries (faulty_of_fault? fault) reading.candid
  | none =>
    rw [fault] at run
    have rules : ((w.entered cell call).changeProbe cell f).rules cell =
        (w.entered cell call).rules cell := by
      rw [World.rules_changeProbe, kept]
      rfl
    refine .done run ?_ ?_ ?_
    · rw [World.probed_changeProbe, written]
    · rw [rules]
      exact reading.quiet
    · rw [rules]
      exact reading.candid

theorem writes_put (cell : Ref .probe) (traits : ProbeTraits) (key value : Bytes) (w : World) :
    Writes cell (Store.put (.probe cell traits) key value) w
      ((w.probed cell).insert key value) := by
  rw [← w.probed_entered cell (.put key value)]
  exact writes_write (.put key value) (·.put key value) (fun _ => rfl) w rfl

theorem writes_del (cell : Ref .probe) (traits : ProbeTraits) (key : Bytes) (w : World) :
    Writes cell (Store.del (.probe cell traits) key) w ((w.probed cell).erase key) := by
  rw [← w.probed_entered cell (.del key)]
  exact writes_write (.del key) (·.del key) (fun _ => rfl) w rfl

end Probe

end StoreGraph
