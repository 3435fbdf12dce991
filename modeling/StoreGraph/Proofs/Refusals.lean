import StoreGraph.Proofs.Plain

/-! # Stores that may refuse writes

A plain store carries a write out or refuses it, and reads go through whatever it refuses. Its own
cell alone decides which (`PlainStore.refusal?`), and nothing but this cell changes (`Alone`). So
several plain stores in cells of their own do not take notice of each other.
-/

namespace StoreGraph

/-- A change of what a store holds under one key. -/
inductive Write where
  | put (key value : Bytes)
  | del (key : Bytes)
  deriving Repr, DecidableEq

namespace Write

def key : Write → Bytes
  | put key _ | del key => key

/-- What is held under the key afterwards. -/
def value? : Write → Option Bytes
  | put _ value => some value
  | del _ => none

def call : Write → Call
  | put key value => .put key value
  | del key => .del key

def run (s : Store) : Write → StoreM Unit
  | put key value => s.put key value
  | del key => s.del key

def apply (entries : SortedMap Bytes Bytes) : Write → SortedMap Bytes Bytes
  | put key value => entries.insert key value
  | del key => entries.erase key

theorem get?_apply (write : Write) (entries : SortedMap Bytes Bytes) (key : Bytes) :
    (write.apply entries).get? key =
      if key = write.key then write.value? else entries.get? key := by
  cases write with
  | put key' value => exact entries.get?_insert key' key value
  | del key' => exact entries.get?_erase key' key

end Write

namespace PlainStore

variable {p q : PlainStore} {w w₁ w₂ w₃ : World}

/-- The failure with which the store refuses a write, if it does. -/
def refusal? (p : PlainStore) (w : World) (write : Write) : Option Error :=
  match p with
  | memory _ => none
  | probe cell _ => w.fault? cell write.call

/-- Nothing but writes is ever refused. -/
def Serving : PlainStore → World → Prop
  | memory _, _ => True
  | probe cell _, w => ∀ rule ∈ w.rules cell, rule.op = .put ∨ rule.op = .del

/-- The two stores keep their entries in different cells. -/
def Apart : PlainStore → PlainStore → Prop
  | memory cell, memory cell' => cell ≠ cell'
  | probe cell _, probe cell' _ => cell ≠ cell'
  | memory _, probe _ _ | probe _ _, memory _ => True

instance (p : PlainStore) (w : World) : Decidable (p.Serving w) :=
  match p with
  | memory _ => .isTrue trivial
  | probe cell _ => inferInstanceAs
      (Decidable (∀ rule ∈ w.rules cell, rule.op = .put ∨ rule.op = .del))

instance : DecidableRel Apart
  | memory cell, memory cell' => inferInstanceAs (Decidable (cell ≠ cell'))
  | probe cell _, probe cell' _ => inferInstanceAs (Decidable (cell ≠ cell'))
  | memory _, probe _ _ | probe _ _, memory _ => .isTrue trivial

theorem Apart.symm (apart : p.Apart q) : q.Apart p := by
  cases p with
  | memory cell =>
    cases q with
    | memory cell' => exact Ne.symm apart
    | probe cell' traits' => trivial
  | probe cell traits =>
    cases q with
    | memory cell' => trivial
    | probe cell' traits' => exact Ne.symm apart

/-- Other stores are not touched, and what is known about failures stays known. -/
structure Works (p : PlainStore) (w w' : World) : Prop extends p.Steady w w' where
  serving : p.Serving w → p.Serving w'
  memories : ∀ cell, p.Apart (memory cell) → w'.memories.get cell = w.memories.get cell
  probes : ∀ cell traits, p.Apart (probe cell traits) → w'.probes.get cell = w.probes.get cell

/-- The store is left as it is, but for the calls that it has recorded. -/
structure Looks (p : PlainStore) (w w' : World) : Prop extends p.Works w w' where
  entries : p.entries w' = p.entries w
  rest : w' = { w with memories := w'.memories, probes := w'.probes }

theorem frame_works (p : PlainStore) : Frame p.Works where
  refl _ := ⟨⟨id, id⟩, id, fun _ _ => rfl, fun _ _ _ => rfl⟩
  trans first second :=
    ⟨first.toSteady.trans second.toSteady, fun serving => second.serving (first.serving serving),
      fun cell apart => (second.memories cell apart).trans (first.memories cell apart),
      fun cell traits apart => (second.probes cell traits apart).trans
        (first.probes cell traits apart)⟩

theorem frame_looks (p : PlainStore) : Frame p.Looks where
  refl w := ⟨(frame_works p).refl w, rfl, rfl⟩
  trans first second := by
    refine ⟨(frame_works p).trans first.toWorks second.toWorks,
      second.entries.trans first.entries, ?_⟩
    rw [second.rest, first.rest]

/-- What changes no cell of a store leaves every store as it is. -/
theorem works_of_same (p : PlainStore) {w w' : World} (memories : w'.memories = w.memories)
    (probes : w'.probes = w.probes) : p.Works w w' ∧ p.entries w' = p.entries w := by
  have rules : ∀ cell, w'.rules cell = w.rules cell := fun cell => by
    rw [World.rules, World.rules, probes]
  refine ⟨⟨⟨?_, ?_⟩, ?_, fun cell _ => by rw [memories], fun cell _ _ => by rw [probes]⟩, ?_⟩
  · cases p with
    | memory cell => exact id
    | probe cell traits =>
      rw [Candid, Candid, rules]
      exact id
  · cases p with
    | memory cell => exact id
    | probe cell traits =>
      rw [Faultless, Faultless, rules]
      exact id
  · cases p with
    | memory cell => exact id
    | probe cell traits =>
      rw [Serving, Serving, rules]
      exact id
  · cases p with
    | memory cell => exact congrArg (fun t => (t.get cell).entries) memories
    | probe cell traits => exact congrArg (fun t => (t.get cell).entries) probes

theorem refusal?_of_faultless (faultless : p.Faultless w) (write : Write) :
    p.refusal? w write = none := by
  cases p with
  | memory cell => rfl
  | probe cell traits => exact World.fault?_of_no_rules faultless.1 write.call

theorem not_faultless_of_refusal {write : Write} {e : Error}
    (refusal : p.refusal? w write = some e) : ¬ p.Faultless w := fun faultless =>
  nomatch refusal.symm.trans (refusal?_of_faultless faultless write)

namespace Works

/-- Stores in other cells hold what they held. -/
theorem entries_apart (works : p.Works w₁ w₂) (apart : p.Apart q) :
    q.entries w₂ = q.entries w₁ := by
  cases q with
  | memory cell => exact congrArg Memory.entries (works.memories cell apart)
  | probe cell traits => exact congrArg Probe.entries (works.probes cell traits apart)

theorem serving_apart (works : p.Works w₁ w₂) (apart : p.Apart q) (serving : q.Serving w₁) :
    q.Serving w₂ := by
  cases q with
  | memory cell => trivial
  | probe cell traits =>
    have same : w₂.rules cell = w₁.rules cell :=
      congrArg Probe.rules (works.probes cell traits apart)
    intro rule listed
    exact serving rule (same ▸ listed)

/-- Stores in other cells refuse what they refused. -/
theorem refusal?_apart (works : p.Works w₁ w₂) (apart : p.Apart q) (write : Write) :
    q.refusal? w₂ write = q.refusal? w₁ write := by
  cases q with
  | memory cell => rfl
  | probe cell traits =>
    have same : w₂.rules cell = w₁.rules cell :=
      congrArg Probe.rules (works.probes cell traits apart)
    simp only [refusal?, World.fault?, same]

end Works

/-! ## Single calls -/

section Probes

variable (cell : Ref .probe) (traits : ProbeTraits)

theorem serving_consult {rules : List FaultRule}
    (serving : ∀ rule ∈ rules, rule.op = .put ∨ rule.op = .del) (op : ProbeOp)
    (key : Option Bytes) :
    ∀ rule ∈ (FaultRule.consult op key rules).2, rule.op = .put ∨ rule.op = .del := by
  intro rule left
  obtain ⟨source, listed, same, -⟩ := FaultRule.sources_of_consult left
  exact same ▸ serving source listed

/-- Rules about writes have nothing to say about anything else. -/
theorem consult_of_serving {rules : List FaultRule}
    (serving : ∀ rule ∈ rules, rule.op = .put ∨ rule.op = .del) (op : ProbeOp)
    (reads : op ≠ .put ∧ op ≠ .del) (key : Option Bytes) :
    (FaultRule.consult op key rules).1 = none := by
  cases outcome : (FaultRule.consult op key rules).1 with
  | none => rfl
  | some e =>
    obtain ⟨rule, listed, meant, -⟩ := FaultRule.source_of_failure outcome
    obtain put | del := serving rule listed
    · exact absurd (meant.symm.trans put) reads.1
    · exact absurd (meant.symm.trans del) reads.2

theorem looks_ruled (op : ProbeOp) (key : Option Bytes) (w : World) :
    (probe cell traits).Looks w (w.ruled cell (FaultRule.consult op key (w.rules cell)).2) where
  toSteady := (spares_of_reading (reading_ruled cell op key w)).toSteady
  serving serving rule left := by
    rw [World.rules_ruled] at left
    exact serving_consult serving op key rule left
  memories _ _ := rfl
  probes _ _ apart := w.probes.get_set_of_ne (Ne.symm apart) _
  entries := w.probed_ruled cell _
  rest := rfl

theorem looks_entered (call : Call) (w : World) :
    (probe cell traits).Looks w (w.entered cell call) where
  toSteady := (spares_of_reading (Probe.Reading.entered cell w call)).toSteady
  serving serving rule left := by
    rw [World.rules_entered] at left
    exact serving_consult serving _ _ rule left
  memories _ _ := rfl
  probes _ _ apart := (Table.get_set_of_ne _ (Ne.symm apart) _).trans
    (w.probes.get_set_of_ne (Ne.symm apart) _)
  entries := w.probed_entered cell call
  rest := rfl

end Probes

/-- What comes of a write: it is carried out, or refused without effect. -/
inductive Attempts (p : PlainStore) (write : Write) (w : World) : Prop where
  | done {w'} (run : (write.run p.store).run w = .ok () w') (accepted : p.refusal? w write = none)
      (works : p.Works w w') (entries : p.entries w' = write.apply (p.entries w))
      (rest : w' = { w with memories := w'.memories, probes := w'.probes })
  | refused {w' e} (run : (write.run p.store).run w = .error e w')
      (refusal : p.refusal? w write = some e) (looks : p.Looks w w')

theorem attempts (p : PlainStore) (write : Write) (w : World) : p.Attempts write w := by
  cases p with
  | memory cell =>
    let f (m : Memory) : Memory := { m with entries := write.apply m.entries }
    have works : (memory cell).Works w (w.changeMemory cell f) :=
      ⟨⟨id, id⟩, id, fun _ apart => w.memories.get_set_of_ne (Ne.symm apart) _, fun _ _ _ => rfl⟩
    refine .done ?_ rfl works ?_ rfl
    · cases write with
      | put key value => rfl
      | del key => rfl
    · exact (World.entries_changeMemory w cell cell f).trans (if_pos rfl)
  | probe cell traits =>
    let f (s : Probe) : Probe := { s with entries := write.apply s.entries }
    have looks := looks_entered cell traits write.call w
    have run := Probe.run_write cell w write.call f
    have called : Probe.write cell write.call f = write.run (probe cell traits).store := by
      cases write with
      | put key value => rfl
      | del key => rfl
    rw [called] at run
    cases fault : w.fault? cell write.call with
    | some e =>
      rw [fault] at run
      exact .refused run fault looks
    | none =>
      rw [fault] at run
      have rules : ((w.entered cell write.call).changeProbe cell f).rules cell =
          (w.entered cell write.call).rules cell := World.rules_changeProbe _ cell f
      have works : (probe cell traits).Works (w.entered cell write.call)
          ((w.entered cell write.call).changeProbe cell f) :=
        ⟨⟨fun candid => by rw [Candid, rules]; exact candid,
            fun faultless => ⟨rules.trans faultless.1, faultless.2⟩⟩,
          fun serving rule listed => serving rule (rules ▸ listed), fun _ _ => rfl,
          fun _ _ apart => Table.get_set_of_ne _ (Ne.symm apart) _⟩
      refine .done run fault ((frame_works _).trans looks.toWorks works) ?_ rfl
      rw [← looks.entries]
      exact World.probed_changeProbe _ cell f

/-- A store that refuses nothing but writes answers what it holds. -/
theorem run_get (serving : p.Serving w) (key : Bytes) :
    ∃ w', p.Looks w w' ∧ (p.store.get key).run w = match (p.entries w).get? key with
      | some value => .ok value w'
      | none => .error .notFound w' := by
  cases p with
  | memory cell => exact ⟨w, (frame_looks _).refl w, Storage.run_memory_get cell key w⟩
  | probe cell traits =>
    have run := Storage.run_probe_get cell w traits key
    have passes : w.fault? cell (.get key) = none :=
      consult_of_serving serving .get (by decide) (some key)
    rw [passes] at run
    refine ⟨_, looks_entered cell traits (.get key) w, run.trans ?_⟩
    simp only [entries]
    cases (w.probed cell).get? key with
    | none => rfl
    | some value => rfl

theorem run_find (serving : p.Serving w) (key : Bytes) :
    ∃ w', p.Looks w w' ∧ (p.store.find? key).run w = .ok ((p.entries w).get? key) w' := by
  obtain ⟨w', looks, run⟩ := run_get serving key
  have got : (p.store.storage.get key).run w = _ := run
  refine ⟨w', looks, ?_⟩
  simp only [Store.find?, Storage.find?, EStateM.run_bind, run_attempt, got]
  cases (p.entries w).get? key with
  | none => rfl
  | some value => rfl

end PlainStore

end StoreGraph
