import StoreGraph.Proofs.Memory
import StoreGraph.Storage.Probe

/-! # Enumerations as sequences of calls

An enumeration calls its visitor with one key after the other, and may change the world on its own
before, between and behind these calls. It ends on its own, well or with a failure, or its visitor
stops it: it then makes no further call and returns exactly the visitor's failure.

What an enumeration is going to do, whoever visits it, is a `Course`, a tree that branches over the
world in which a call leaves it. What came of it with one visitor is an `Account`. A store whose
enumerations take such a course `Follows` it; stores over memory cells do, and probes that heed
their visitors.

`Shows` says the same of a single enumeration as a sequence of calls. Layers over several stores are
described by it, since their visitors are not the visitors of the stores below.
-/

namespace StoreGraph

/-- An action of a visitor that relates the worlds before and after it. -/
def Leaves {τ α : Type} (between : World → World → Prop) (x : VisitM τ α) : Prop :=
  ∀ s, between s.1 (stateAfter x s).1

section Leaves

variable {τ α : Type} {between : World → World → Prop} {x : VisitM τ α} {s s' : World × τ}

theorem Leaves.of_ok {a : α} (h : Leaves between x) (run : x.run s = .ok a s') :
    between s.1 s'.1 := by
  have moved := h s
  rwa [stateAfter, run] at moved

theorem Leaves.of_error {e : Error} (h : Leaves between x) (run : x.run s = .error e s') :
    between s.1 s'.1 := by
  have moved := h s
  rwa [stateAfter, run] at moved

end Leaves

/-- How an enumeration ended. -/
inductive Ending where
  /-- On its own, well or with a failure of its own. -/
  | finished (outcome : Except Error Unit)
  /-- With the failure of its visitor. -/
  | stopped (failure : Error)

namespace Ending

/-- The failure with which the visitor stopped the enumeration, if it did. -/
def stoppedWith? : Ending → Option Error
  | finished _ => none
  | stopped e => some e

/-- The ending of an enumeration that its visitor may have stopped. -/
def closing (outcome : Except Error Unit) : Option Error → Ending
  | none => finished outcome
  | some e => stopped e

theorem closing_unfailing (stopped : Option Error) :
    closing (.ok ()) stopped = .finished (.ok ()) ∨ ∃ e, closing (.ok ()) stopped = .stopped e := by
  cases stopped with
  | none => exact .inl rfl
  | some e => exact .inr ⟨e, rfl⟩

def result {σ : Type} : Ending → σ → EStateM.Result Error σ Unit
  | finished (.ok ()), s => .ok () s
  | finished (.error e), s | stopped e, s => .error e s

theorem stateAfter_of_run {σ : Type} {x : EStateM Error σ Unit} {s s' : σ} {ending : Ending}
    (run : x.run s = ending.result s') : stateAfter x s = s' := by
  rw [stateAfter, run]
  cases ending with
  | stopped e => rfl
  | finished outcome => cases outcome <;> rfl

end Ending

/-- What came of an enumeration: the keys with which the visitor was called, the last of them the
    one at which it failed if it did. -/
structure Account (τ : Type) where
  keys : List Bytes
  ending : Ending
  stop : World × τ

def Account.result {τ : Type} (a : Account τ) : EStateM.Result Error (World × τ) Unit :=
  a.ending.result a.stop

/-- What an enumeration is going to do. -/
inductive Course where
  | finish (w : World) (outcome : Except Error Unit)
  /-- Call the visitor in a world, and go on from the world in which the call leaves it. If the
      visitor fails, only settle the world. -/
  | call (w : World) (key : Bytes) (resume : World → Course) (settle : World → World)

namespace Course

variable {τ : Type}

/-- Take a course with a visitor. -/
def follow (visit : Bytes → VisitM τ Unit) : Course → τ → Account τ
  | finish w outcome, t => ⟨[], .finished outcome, (w, t)⟩
  | call w key resume settle, t =>
    match (visit key).run (w, t) with
    | .ok _ (w', t') =>
      let rest := (resume w').follow visit t'
      { rest with keys := key :: rest.keys }
    | .error e (w', t') => ⟨[key], .stopped e, (settle w', t')⟩

/-- A course that begins in a given world and whose own changes of the world are bounded. -/
def Within (between : World → World → Prop) : World → Course → Prop
  | w, finish w' _ => between w w'
  | w, call w' _ resume settle =>
    between w w' ∧ (∀ after, Within between after (resume after)) ∧
      ∀ after, between after (settle after)

theorem Within.prepend {between : World → World → Prop}
    (trans : ∀ a b c, between a b → between b c → between a c) {w w₁ : World} {c : Course}
    (quiet : between w w₁) (h : c.Within between w₁) : c.Within between w := by
  cases c with
  | finish w' outcome => exact trans _ _ _ quiet h
  | call w' key resume settle => exact ⟨trans _ _ _ quiet h.1, h.2⟩

/-- Call the visitor with each key, after an action of the store's own. -/
def each (before : Bytes → StoreM Unit) : List Bytes → World → Course
  | [], w => finish w (.ok ())
  | key :: rest, w =>
    match (before key).run w with
    | .ok _ w' => call w' key (each before rest) id
    | .error e w' => finish w' (.error e)

theorem each_within {between : World → World → Prop} (refl : ∀ w, between w w)
    {before : Bytes → StoreM Unit} (quiet : ∀ key w, between w (stateAfter (before key) w))
    (keys : List Bytes) (w : World) : (each before keys w).Within between w := by
  induction keys generalizing w with
  | nil => exact refl w
  | cons key rest ih =>
    have moved := quiet key w
    unfold stateAfter at moved
    unfold each
    cases first : (before key).run w with
    | error e w' =>
      rw [first] at moved
      exact moved
    | ok _ w' =>
      rw [first] at moved
      exact ⟨moved, ih, refl⟩

theorem run_forM (before : Bytes → StoreM Unit) (visit : Bytes → VisitM τ Unit)
    (keys : List Bytes) (w : World) (t : τ) :
    (keys.forM fun key => do StoreM.visiting (before key); visit key).run (w, t) =
      ((each before keys w).follow visit t).result := by
  induction keys generalizing w t with
  | nil => rfl
  | cons key rest ih =>
    simp only [List.forM, EStateM.run_bind, StoreM.run_visiting, each]
    cases (before key).run w with
    | error e w' => rfl
    | ok _ w' =>
      simp only [follow]
      cases (visit key).run (w', t) with
      | error e s => rfl
      | ok _ s => exact ih s.1 s.2

/-- A visitor is called for every key of a list, unless it stops at one. -/
theorem follow_each (visit : Bytes → VisitM τ Unit) (keys : List Bytes) (w : World) (t : τ) :
    let account := (each (fun _ => pure ()) keys w).follow visit t
    account.ending = .finished (.ok ()) ∧ account.keys = keys ∨
      (∃ e, account.ending = .stopped e) ∧ ∀ key ∈ account.keys, key ∈ keys := by
  induction keys generalizing w t with
  | nil => exact .inl ⟨rfl, rfl⟩
  | cons key rest ih =>
    simp only [each, EStateM.run_pure, follow]
    cases (visit key).run (w, t) with
    | error e s => exact .inr ⟨⟨e, rfl⟩, by simp⟩
    | ok _ s =>
      obtain ⟨ended, whole⟩ | ⟨stopped, part⟩ := ih s.1 s.2
      · exact .inl ⟨ended, congrArg (key :: ·) whole⟩
      · refine .inr ⟨stopped, ?_⟩
        intro other member
        obtain rfl | member := List.mem_cons.mp member
        · exact List.mem_cons_self
        · exact List.mem_cons_of_mem _ (part other member)

end Course

/-- Every enumeration of the store takes the course that belongs to the world in which it begins. -/
structure Follows (between : World → World → Prop) (course : World → Course) (s : Storage) :
    Prop where
  quiet : ∀ w, (course w).Within between w
  run : ∀ {τ : Type} (visit : Bytes → VisitM τ Unit) (w : World) (t : τ),
    (s.keys visit).run (w, t) = ((course w).follow visit t).result

section Stores

variable {between : World → World → Prop}

/-- The keys of a memory cell, from a snapshot taken at the beginning. -/
def memoryCourse (cell : Ref .memory) (w : World) : Course :=
  Course.each (fun _ => pure ()) (w.entries cell).keys w

theorem follows_memory (refl : ∀ w, between w w) (cell : Ref .memory) :
    Follows between (memoryCourse cell) (Storage.memory cell) where
  quiet w := by
    apply Course.each_within refl
    exact fun _ w => refl w
  run visit w t := Course.run_forM (fun _ => pure ()) visit (w.entries cell).keys w t

/-- The keys of a probe, from a snapshot, as far as its fault rules let it come. -/
def probeCourse (cell : Ref .probe) (w : World) : Course :=
  match (Probe.enter cell .keys).run w with
  | .ok _ w' =>
    Course.each (fun key => Probe.consult cell .visit (some key))
      (w'.probes.get cell).entries.keys w'
  | .error e w' => .finish w' (.error e)

section Probes

variable {cell : Ref .probe}
  (own : ∀ w f, between w { w with probes := w.probes.modify cell f })

include own

theorem consult_quiet (op : ProbeOp) (key : Option Bytes) (w : World) :
    between w (stateAfter (Probe.consult cell op key) w) := by
  have changed := own w
    ({ · with rules := (FaultRule.consult op key (w.probes.get cell).rules).2 })
  simp only [stateAfter, Probe.consult, Probe.read, Probe.update, EStateM.run_bind,
    EStateM.run_get, EStateM.run_pure, EStateM.run_modify]
  cases (FaultRule.consult op key (w.probes.get cell).rules).1 with
  | none => exact changed
  | some e => exact changed

theorem enter_quiet (trans : ∀ a b c, between a b → between b c → between a c) (call : Call)
    (w : World) : between w (stateAfter (Probe.enter cell call) w) :=
  trans _ _ _ (own w (·.record call)) (consult_quiet own call.op call.key? _)

/-- A probe that heeds its visitors, whatever its fault rules. -/
theorem follows_probe (refl : ∀ w, between w w)
    (trans : ∀ a b c, between a b → between b c → between a c) {traits : ProbeTraits}
    (heeding : traits.stubborn = false) :
    Follows between (probeCourse cell) (Storage.probe cell traits) where
  quiet w := by
    have entered := enter_quiet own trans .keys w
    unfold stateAfter at entered
    unfold probeCourse
    cases first : (Probe.enter cell .keys).run w with
    | error e w' =>
      rw [first] at entered
      exact entered
    | ok _ w' =>
      rw [first] at entered
      exact Course.Within.prepend trans entered
        (Course.each_within refl (fun key w => consult_quiet own .visit (some key) w) _ w')
  run visit w t := by
    simp only [Storage.probe, heeding, Bool.false_eq_true, if_false, EStateM.run_bind,
      StoreM.run_visiting, probeCourse]
    cases (Probe.enter cell .keys).run w with
    | error e w' => rfl
    | ok _ w' => exact Course.run_forM _ visit (w'.probes.get cell).entries.keys w' t

end Probes

end Stores

/-- The course of an enumeration: the keys with which the visitor was called, and how it ended. The
    last key of one that was stopped is the key at which the visitor failed. -/
inductive Shows {τ : Type} (between : World → World → Prop) (visit : Bytes → VisitM τ Unit) :
    World × τ → List Bytes → Ending → World × τ → Prop where
  | finish {w w' t} (outcome) (quiet : between w w') :
      Shows between visit (w, t) [] (.finished outcome) (w', t)
  | shown {w w₁ t key s keys ending s'} (quiet : between w w₁)
      (call : (visit key).run (w₁, t) = .ok () s) (rest : Shows between visit s keys ending s') :
      Shows between visit (w, t) (key :: keys) ending s'
  | stop {w w₁ w₂ w₃ t t' key e} (quiet : between w w₁)
      (call : (visit key).run (w₁, t) = .error e (w₂, t')) (after : between w₂ w₃) :
      Shows between visit (w, t) [key] (.stopped e) (w₃, t')

namespace Shows

variable {τ : Type} {between wider : World → World → Prop} {visit : Bytes → VisitM τ Unit}
  {s s₁ s₂ : World × τ} {keys later : List Bytes} {ending : Ending}

theorem mono (imp : ∀ w w', between w w' → wider w w') (h : Shows between visit s keys ending s₁) :
    Shows wider visit s keys ending s₁ := by
  induction h with
  | finish outcome quiet => exact .finish outcome (imp _ _ quiet)
  | shown quiet call _ ih => exact .shown (imp _ _ quiet) call ih
  | stop quiet call after => exact .stop (imp _ _ quiet) call (imp _ _ after)

/-- An enumeration and the calls of its visitor together change the world only as each of them does
    on its own. -/
theorem leaves (trans : ∀ a b c, between a b → between b c → between a c)
    (apart : ∀ key, Leaves between (visit key)) (h : Shows between visit s keys ending s₁) :
    between s.1 s₁.1 := by
  induction h with
  | finish outcome quiet => exact quiet
  | @shown w w₁ t key s keys ending s' quiet call rest ih =>
    exact trans _ _ _ quiet (trans _ _ _ ((apart key).of_ok call) ih)
  | @stop w w₁ w₂ w₃ t t' key e quiet call after =>
    exact trans _ _ _ quiet (trans _ _ _ ((apart key).of_error call) after)

/-- What an enumeration does before its first call can be preceded by more of this kind. -/
theorem prepend (trans : ∀ a b c, between a b → between b c → between a c) {w w₁ : World} {t : τ}
    (quiet : between w w₁) (h : Shows between visit (w₁, t) keys ending s₂) :
    Shows between visit (w, t) keys ending s₂ := by
  cases h with
  | finish outcome first => exact .finish outcome (trans _ _ _ quiet first)
  | shown first call rest => exact .shown (trans _ _ _ quiet first) call rest
  | stop first call after => exact .stop (trans _ _ _ quiet first) call after

/-- What follows an enumeration can be counted to it. -/
theorem extend (trans : ∀ a b c, between a b → between b c → between a c) {w₁ w₂ : World} {t : τ}
    (h : Shows between visit s keys ending (w₁, t)) (quiet : between w₁ w₂) :
    Shows between visit s keys ending (w₂, t) := by
  generalize reached : (w₁, t) = s₁ at h
  induction h with
  | finish outcome first =>
    cases reached
    exact .finish outcome (trans _ _ _ first quiet)
  | shown first call _ ih => exact .shown first call (ih reached)
  | stop first call after =>
    cases reached
    exact .stop first call (trans _ _ _ after quiet)

/-- An enumeration that ended on its own may be followed by another one. -/
theorem append (trans : ∀ a b c, between a b → between b c → between a c) {outcome}
    (first : Shows between visit s keys (.finished outcome) s₁)
    (second : Shows between visit s₁ later ending s₂) :
    Shows between visit s (keys ++ later) ending s₂ := by
  generalize ended : Ending.finished outcome = firstEnding at first
  induction first with
  | finish outcome quiet => exact prepend trans quiet second
  | shown quiet call _ ih => exact .shown quiet call (ih second ended)
  | stop quiet call after => cases ended

/-- A visitor that never fails does not stop an enumeration. -/
theorem finishes (h : Shows between visit s keys ending s₁)
    (steady : ∀ key s, ∃ s', (visit key).run s = .ok () s') :
    ∃ outcome, ending = .finished outcome := by
  induction h with
  | finish outcome quiet => exact ⟨outcome, rfl⟩
  | shown quiet call rest ih => exact ih
  | @stop w w₁ w₂ w₃ t t' key e quiet call after =>
    obtain ⟨s', fine⟩ := steady key (w₁, t)
    rw [fine] at call
    cases call

end Shows

/-- What came of a course is a sequence of calls. -/
theorem Course.Within.shows {τ : Type} {between : World → World → Prop}
    (visit : Bytes → VisitM τ Unit) {w : World} {c : Course} (within : c.Within between w) (t : τ) :
    Shows between visit (w, t) (c.follow visit t).keys (c.follow visit t).ending
      (c.follow visit t).stop := by
  induction c generalizing w t with
  | finish w' outcome => exact .finish outcome within
  | call w' key resume settle ih =>
    obtain ⟨quiet, resumed, settled⟩ := within
    simp only [follow]
    cases call : (visit key).run (w', t) with
    | error e s => exact .stop quiet call (settled s.1)
    | ok _ s => exact .shown quiet call (ih s.1 (resumed s.1) s.2)

end StoreGraph
