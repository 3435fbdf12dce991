import StoreGraph.Proofs.Frame
import StoreGraph.Proofs.Memory
import StoreGraph.Proofs.Probe

/-! # Plain stores

A store that keeps its entries in one cell: an in-memory store, or a probe, of which single calls
may fail. Every call has its effect on the entries or fails without one. As long as no call fails,
keys are shown one after the other in the order of the entries (`PlainStore.inTurn_keys`).
-/

namespace StoreGraph

/-! ## Visitors that are called in turn -/

/-- A visitor is called with one thing after the other, until it fails, and the outcome is its
    failure or success. Other changes of the world are bounded. -/
inductive InTurn {τ α : Type} (between : World → World → Prop) (visit : α → VisitM τ Unit) :
    List α → World × τ → EStateM.Result Error (World × τ) Unit → Prop where
  | finish {w w' t} (quiet : between w w') : InTurn between visit [] (w, t) (.ok () (w', t))
  | call {w w₁ t a s rest result} (quiet : between w w₁) (called : (visit a).run (w₁, t) = .ok () s)
      (later : InTurn between visit rest s result) : InTurn between visit (a :: rest) (w, t) result
  | stop {w w₁ t a e s rest} (quiet : between w w₁) (called : (visit a).run (w₁, t) = .error e s) :
      InTurn between visit (a :: rest) (w, t) (.error e s)

namespace InTurn

variable {τ α β : Type} {between : World → World → Prop} {visit : α → VisitM τ Unit}
  {xs ys : List α} {w w₁ : World} {t : τ} {s s₁ : World × τ}
  {result : EStateM.Result Error (World × τ) Unit}

theorem prepend (frame : Frame between) (quiet : between w w₁)
    (h : InTurn between visit xs (w₁, t) result) : InTurn between visit xs (w, t) result := by
  cases h with
  | finish first => exact .finish (frame.trans quiet first)
  | call first called later => exact .call (frame.trans quiet first) called later
  | stop first called => exact .stop (frame.trans quiet first) called

theorem append (frame : Frame between) (first : InTurn between visit xs s (.ok () s₁))
    (second : InTurn between visit ys s₁ result) : InTurn between visit (xs ++ ys) s result := by
  generalize ended : EStateM.Result.ok () s₁ = outcome at first
  induction first with
  | finish quiet =>
    cases ended
    exact second.prepend frame quiet
  | call quiet called _ ih => exact .call quiet called (ih ended)
  | stop quiet called => cases ended

/-- What stands behind a failure is never reached. -/
theorem stopped {e : Error} (h : InTurn between visit xs s (.error e s₁)) (ys : List α) :
    InTurn between visit (xs ++ ys) s (.error e s₁) := by
  generalize ended : EStateM.Result.error e s₁ = outcome at h
  induction h with
  | finish quiet => cases ended
  | call quiet called _ ih => exact .call quiet called (ih ended)
  | stop quiet called => exact .stop quiet called

/-- The visitor may be given each thing in another form. -/
theorem map (form : α → β) {visit : β → VisitM τ Unit}
    (h : InTurn between (fun a => visit (form a)) xs s result) :
    InTurn between visit (xs.map form) s result := by
  induction h with
  | finish quiet => exact .finish quiet
  | call quiet called _ ih => exact .call quiet called ih
  | stop quiet called => exact .stop quiet called

section Steps

variable {known : World → Prop} (frame : Frame between)
  (steady : ∀ {w w'}, between w w' → known w → known w')
  (visits : ∀ a, Leaves between (visit a))

include frame steady

include visits in
/-- A loop whose steps do no more than call the visitor. -/
theorem forM {step : α → VisitM τ Unit}
    (steps : ∀ a w t, known w → ∃ w', between w w' ∧ (step a).run (w, t) = (visit a).run (w', t))
    (begins : known w) : InTurn between visit xs (w, t) ((xs.forM step).run (w, t)) := by
  induction xs generalizing w t with
  | nil => exact .finish (frame.refl w)
  | cons a rest ih =>
    obtain ⟨w₁, quiet, run⟩ := steps a w t begins
    simp only [List.forM, EStateM.run_bind, run]
    cases called : (visit a).run (w₁, t) with
    | error e s => exact .stop quiet called
    | ok _ s =>
      exact .call quiet called (ih (steady ((visits a).of_ok called) (steady quiet begins)))

/-- A visitor that calls another one in turn. -/
theorem flatMap {outer : β → VisitM τ Unit} {parts : β → List α}
    (inner : ∀ b w t, known w → InTurn between visit (parts b) (w, t) ((outer b).run (w, t)))
    (outers : ∀ b, Leaves between (outer b)) {bs : List β} (begins : known s.1)
    (h : InTurn between outer bs s result) :
    InTurn between visit (bs.flatMap parts) s result := by
  induction h with
  | finish quiet => exact .finish quiet
  | @call w w₁ t b s rest result quiet called later ih =>
    have known₁ := steady quiet begins
    have first := inner b w₁ t known₁
    rw [called] at first
    exact (first.prepend frame quiet).append frame (ih (steady ((outers b).of_ok called) known₁))
  | @stop w w₁ t b e s rest quiet called =>
    have first := inner b w₁ t (steady quiet begins)
    rw [called] at first
    exact (first.prepend frame quiet).stopped _

end Steps

end InTurn

/-! ## Calls -/

/-- Make a call; what it answers is not looked at. -/
def Call.make (s : Store) : Call → StoreM Unit
  | put key value => s.put key value
  | get key => do
    let _ ← s.find? key
  | del key => s.del key
  | keys => do
    let _ ← s.allKeys
  | close => s.close
  | clear => s.clear?.getD (pure ())

/-- The failure of the first of several calls that fails, if they are made until one does. -/
def Store.firstFailure? (s : Store) (w : World) : List Call → Option Error
  | [] => none
  | call :: rest =>
    match (call.make s).run w with
    | .error e _ => some e
    | .ok _ w' => s.firstFailure? w' rest

/-- A store that keeps its entries in one cell. -/
inductive PlainStore where
  | memory (cell : Ref .memory)
  | probe (cell : Ref .probe) (traits : ProbeTraits)

namespace PlainStore

def store : PlainStore → Store
  | memory cell => .memory cell
  | probe cell traits => .probe cell traits

def entries : PlainStore → World → SortedMap Bytes Bytes
  | memory cell, w => w.entries cell
  | probe cell _, w => w.probed cell

/-- No read fails as if the key were absent. -/
def Candid : PlainStore → World → Prop
  | memory _, _ => True
  | probe cell _, w => FaultRule.Candid (w.rules cell)

/-- No call fails, and enumerations end with the failures of their visitors. -/
def Faultless : PlainStore → World → Prop
  | memory _, _ => True
  | probe cell traits, w => w.rules cell = [] ∧ traits.stubborn = false

/-- What is known about failures stays known. -/
structure Steady (p : PlainStore) (w w' : World) : Prop where
  candid : p.Candid w → p.Candid w'
  faultless : p.Faultless w → p.Faultless w'

/-- The entries stay the same. -/
structure Spares (p : PlainStore) (w w' : World) : Prop extends p.Steady w w' where
  entries : p.entries w' = p.entries w

theorem Steady.trans {p : PlainStore} {w₁ w₂ w₃ : World} (first : p.Steady w₁ w₂)
    (second : p.Steady w₂ w₃) : p.Steady w₁ w₃ :=
  ⟨fun h => second.candid (first.candid h), fun h => second.faultless (first.faultless h)⟩

theorem frame_spares (p : PlainStore) : Frame p.Spares where
  refl _ := ⟨⟨id, id⟩, rfl⟩
  trans first second :=
    ⟨first.toSteady.trans second.toSteady, second.entries.trans first.entries⟩

/-- The action only reads. It answers as stated, or fails because some call does. -/
inductive Tries {α : Type} (p : PlainStore) (x : StoreM α) (w : World) (a : α) : Prop where
  | answers {w'} (spares : p.Spares w w') (run : x.run w = .ok a w')
  | fails {w' e} (spares : p.Spares w w') (faulty : ¬ p.Faultless w) (run : x.run w = .error e w')

/-- The action leaves the given entries, or fails without effect. -/
inductive Writes (p : PlainStore) (x : StoreM Unit) (w : World) (entries : SortedMap Bytes Bytes) :
    Prop where
  | done {w'} (steady : p.Steady w w') (written : p.entries w' = entries)
      (run : x.run w = .ok () w')
  | failed {w' e} (spares : p.Spares w w') (faulty : ¬ p.Faultless w)
      (run : x.run w = .error e w')

section Runs

variable {p : PlainStore} {w : World}

theorem spares_of_reading {cell : Ref .probe} {traits : ProbeTraits} {w' : World}
    (reading : Probe.Reading cell w w') : (probe cell traits).Spares w w' :=
  ⟨⟨reading.candid, fun h => ⟨reading.quiet h.1, h.2⟩⟩, reading.entries⟩

theorem tries_find (candid : p.Candid w) (key : Bytes) :
    p.Tries (p.store.find? key) w ((p.entries w).get? key) := by
  cases p with
  | memory cell => exact .answers ((frame_spares _).refl w) (Storage.run_memory_find cell key w)
  | probe cell traits =>
    have tries : Probe.Tries cell (Store.find? (.probe cell traits) key) w _ :=
      Probe.tries_find candid
    cases tries with
    | answers reading run => exact .answers (spares_of_reading reading) run
    | fails reading faulty run =>
      exact .fails (spares_of_reading reading) (fun faultless => faulty faultless.1) run

theorem writes_of_probe {cell : Ref .probe} {traits : ProbeTraits} {x : StoreM Unit}
    {entries : SortedMap Bytes Bytes} (writes : Probe.Writes cell x w entries) :
    (probe cell traits).Writes x w entries := by
  cases writes with
  | done run written quiet candid =>
    exact .done ⟨candid, fun h => ⟨quiet h.1, h.2⟩⟩ written run
  | @failed w' e run same faulty candid =>
    have spares : (probe cell traits).Spares w w' :=
      ⟨⟨candid, fun h => absurd h.1 faulty⟩, same⟩
    exact .failed spares (fun faultless => faulty faultless.1) run

theorem writes_put (p : PlainStore) (key value : Bytes) (w : World) :
    p.Writes (p.store.put key value) w ((p.entries w).insert key value) := by
  cases p with
  | memory cell =>
    have steady : (memory cell).Steady w (w.changeMemory cell (·.put key value)) := ⟨id, id⟩
    exact .done steady ((World.entries_put w cell cell key value).trans (if_pos rfl)) rfl
  | probe cell traits => exact writes_of_probe (Probe.writes_put cell traits key value w)

theorem writes_del (p : PlainStore) (key : Bytes) (w : World) :
    p.Writes (p.store.del key) w ((p.entries w).erase key) := by
  cases p with
  | memory cell =>
    have steady : (memory cell).Steady w (w.changeMemory cell (·.del key)) := ⟨id, id⟩
    exact .done steady ((World.entries_del w cell cell key).trans (if_pos rfl)) rfl
  | probe cell traits => exact writes_of_probe (Probe.writes_del cell traits key w)

end Runs

/-! ## Enumerations -/

section Keys

variable {p : PlainStore} {w : World} {τ : Type} {visit : Bytes → VisitM τ Unit} {t : τ}

theorem reading_ruled (cell : Ref .probe) (op : ProbeOp) (key : Option Bytes) (w : World) :
    Probe.Reading cell w (w.ruled cell (FaultRule.consult op key (w.rules cell)).2) := by
  refine ⟨w.probed_ruled cell _, fun candid => ?_, fun none => ?_⟩
  · rw [World.rules_ruled]
    exact candid.consult op key
  · rw [World.rules_ruled, none]
    rfl

theorem spares_consult (cell : Ref .probe) (traits : ProbeTraits) (op : ProbeOp)
    (key : Option Bytes) : Moves (probe cell traits).Spares (Probe.consult cell op key) := by
  intro w
  have reading := reading_ruled cell op key w
  rw [stateAfter, Probe.run_consult]
  cases (FaultRule.consult op key (w.rules cell)).1 with
  | none => exact spares_of_reading reading
  | some e => exact spares_of_reading reading

theorem spares_enter (cell : Ref .probe) (traits : ProbeTraits) (call : Call) :
    Moves (probe cell traits).Spares (Probe.enter cell call) := by
  intro w
  have reading := Probe.Reading.entered cell w call
  rw [stateAfter, Probe.run_enter]
  cases w.fault? cell call with
  | none => exact spares_of_reading reading
  | some e => exact spares_of_reading reading

theorem spares_find (key : Bytes) : Moves p.Spares (p.store.find? key) := by
  have frame := frame_spares p
  have reads : Moves p.Spares (p.store.get key) := by
    cases p with
    | memory cell =>
      refine .bind frame (frame.refl ·) fun entries => ?_
      split
      · exact .pure frame _
      · exact .throw frame _
    | probe cell traits =>
      refine .bind frame (spares_enter cell traits (.get key)) fun _ => ?_
      refine .bind frame (frame.refl ·) fun entries => ?_
      split
      · exact .pure frame _
      · exact .throw frame _
  exact .find frame reads

/-- An enumeration leaves the entries alone if its visitor does, whatever fails. -/
theorem leaves_keys (visits : ∀ key, Leaves p.Spares (visit key)) :
    Leaves p.Spares (p.store.keys visit) := by
  have frame := frame_spares p
  cases p with
  | memory cell =>
    refine Moves.bind frame.world (Moves.visiting (frame.refl ·)) fun snapshot => ?_
    exact Moves.forM frame.world fun key _ => visits key
  | probe cell traits =>
    refine Moves.bind frame.world (Moves.visiting (spares_enter cell traits .keys)) fun _ => ?_
    refine Moves.bind frame.world (Moves.visiting (frame.refl ·)) fun snapshot => ?_
    refine Moves.forM frame.world fun key _ => ?_
    refine Moves.bind frame.world (Moves.visiting (spares_consult cell traits .visit _)) fun _ => ?_
    split
    · exact Moves.bind frame.world (Moves.attempt (visits key)) fun _ => Moves.pure frame.world _
    · exact visits key

/-- An enumeration in which no call fails shows the keys of the entries in turn. -/
theorem inTurn_keys (faultless : p.Faultless w) (visits : ∀ key, Leaves p.Spares (visit key)) :
    InTurn p.Spares visit (p.entries w).keys (w, t) ((p.store.keys visit).run (w, t)) := by
  have frame := frame_spares p
  cases p with
  | memory cell =>
    exact .forM frame (fun spares => spares.faultless) visits
      (fun a w t _ => ⟨w, frame.refl w, rfl⟩) faultless
  | probe cell traits =>
    have heeds := faultless.2
    have opened : (Probe.enter cell .keys).run w = .ok () (w.entered cell .keys) := by
      rw [Probe.run_enter, World.fault?_of_no_rules faultless.1]
    have entered := (spares_enter cell traits .keys).of_ok opened
    have run : ((probe cell traits).store.keys visit).run (w, t) =
        (((probe cell traits).entries w).keys.forM fun key => do
          StoreM.visiting (Probe.consult cell .visit (some key))
          visit key).run (w.entered cell .keys, t) := by
      rw [← entered.entries]
      simp only [store, Store.keys, Store.storage, Storage.probe, heeds, Bool.false_eq_true,
        if_false, EStateM.run_bind, StoreM.run_visiting, opened]
      rfl
    rw [run]
    refine (InTurn.forM frame (fun spares => spares.faultless) visits ?_
      (entered.faultless faultless)).prepend frame entered
    intro key w t faultless
    have passed : (Probe.consult cell .visit (some key)).run w = .ok () (w.ruled cell []) := by
      rw [Probe.run_consult, faultless.1]
      rfl
    refine ⟨w.ruled cell [], (spares_consult cell traits .visit (some key)).of_ok passed, ?_⟩
    simp only [EStateM.run_bind, StoreM.run_visiting, passed]

end Keys

end PlainStore

end StoreGraph
