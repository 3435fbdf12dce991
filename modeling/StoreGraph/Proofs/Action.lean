import StoreGraph.Action

/-! # Running actions

An action composed of smaller ones is run step by step: every primitive action has one equation for
its run, and `run_bind_eq_ok_iff` opens a sequence that succeeded. Later proofs rewrite with these
and never look inside the monad.
-/

namespace StoreGraph

/-- The state in which an action leaves the world, whether it succeeds or fails. -/
def stateAfter {σ α : Type} (x : EStateM Error σ α) (s : σ) : σ :=
  match x.run s with
  | .ok _ s' | .error _ s' => s'

theorem stateAfter_ok {σ α : Type} {x : EStateM Error σ α} {s s' : σ} {a : α}
    (run : x.run s = .ok a s') : stateAfter x s = s' := by
  rw [stateAfter, run]

theorem stateAfter_error {σ α : Type} {x : EStateM Error σ α} {s s' : σ} {e : Error}
    (run : x.run s = .error e s') : stateAfter x s = s' := by
  rw [stateAfter, run]

/-- An action that answers ends in some state. -/
theorem exists_run_of_run' {σ α : Type} {x : EStateM Error σ α} {s : σ} {a : α}
    (ran : x.run' s = some a) : ∃ s', x.run s = .ok a s' := by
  unfold EStateM.run' at ran
  cases run : x.run s with
  | ok a' s' =>
    rw [run] at ran
    cases ran
    exact ⟨s', rfl⟩
  | error e s' =>
    rw [run] at ran
    cases ran

/-- What an action answers. -/
def outcome {σ α : Type} (x : EStateM Error σ α) (s : σ) : Except Error α :=
  match x.run s with
  | .ok a _ => .ok a
  | .error e _ => .error e

theorem outcome_ok {σ α : Type} {x : EStateM Error σ α} {s s' : σ} {a : α}
    (run : x.run s = .ok a s') : outcome x s = .ok a := by
  rw [outcome, run]

theorem outcome_error {σ α : Type} {x : EStateM Error σ α} {s s' : σ} {e : Error}
    (run : x.run s = .error e s') : outcome x s = .error e := by
  rw [outcome, run]

section Congruence

variable {σ α : Type} {x y : EStateM Error σ α} {s t : σ}

/-- Runs of two actions, each in a state of its own, are told apart by their results only. -/
theorem outcome_congr (same : x.run s = y.run t) : outcome x s = outcome y t := by
  rw [outcome, same, outcome]

theorem stateAfter_congr (same : x.run s = y.run t) : stateAfter x s = stateAfter y t := by
  rw [stateAfter, same, stateAfter]

end Congruence

section Sequence

variable {σ α β : Type} {s s' : σ}

/-- A sequence succeeds exactly if its first action does and what follows it does. -/
theorem run_bind_eq_ok_iff {x : EStateM Error σ α} {f : α → EStateM Error σ β} {b : β} :
    (x >>= f).run s = .ok b s' ↔ ∃ a s₁, x.run s = .ok a s₁ ∧ (f a).run s₁ = .ok b s' := by
  constructor
  · intro h
    rw [EStateM.run_bind] at h
    cases hx : x.run s with
    | ok a s₁ =>
      rw [hx] at h
      exact ⟨a, s₁, rfl, h⟩
    | error e s₁ =>
      rw [hx] at h
      cases h
  · rintro ⟨a, s₁, hx, hf⟩
    rw [EStateM.run_bind, hx]
    exact hf

theorem outcome_bind (x : EStateM Error σ α) (f : α → EStateM Error σ β) (s : σ) :
    outcome (x >>= f) s = match outcome x s with
      | .ok a => outcome (f a) (stateAfter x s)
      | .error e => .error e := by
  unfold outcome stateAfter
  rw [EStateM.run_bind]
  cases x.run s <;> rfl

theorem stateAfter_bind (x : EStateM Error σ α) (f : α → EStateM Error σ β) (s : σ) :
    stateAfter (x >>= f) s = match outcome x s with
      | .ok a => stateAfter (f a) (stateAfter x s)
      | .error _ => stateAfter x s := by
  unfold outcome stateAfter
  rw [EStateM.run_bind]
  cases x.run s <;> rfl

@[simp] theorem run_attempt (x : EStateM Error σ α) (s : σ) :
    (attempt x).run s = match x.run s with
      | .ok a s => .ok (.ok a) s
      | .error e s => .ok (.error e) s := rfl

@[simp] theorem run_withContext (doing : String) (x : EStateM Error σ α) (s : σ) :
    (withContext doing x).run s = match x.run s with
      | .ok a s => .ok a s
      | .error e s => .error (.context doing e) s := rfl

@[simp] theorem run_throw_any (e : Error) (s : σ) :
    (throw e : EStateM Error σ α).run s = .error e s := rfl

end Sequence

namespace StoreM

@[simp] theorem run_report (event : Event) (w : World) :
    (report event).run w = .ok () { w with events := w.events ++ [event] } := rfl

@[simp] theorem run_draw (w : World) :
    draw.run w = .ok (w.randomness w.drawn) { w with drawn := w.drawn + 1 } := rfl

@[simp] theorem run_visiting {τ α : Type} (x : StoreM α) (w : World) (t : τ) :
    (visiting x : VisitM τ α).run (w, t) = match x.run w with
      | .ok a w => .ok a (w, t)
      | .error e w => .error e (w, t) := rfl

end StoreM

namespace VisitM

variable {τ υ α : Type}

@[simp] theorem run_besides (x : VisitM τ α) (w : World) (t : τ) (u : υ) :
    (besides x).run (w, t, u) = match x.run (w, t) with
      | .ok a s => .ok a (s.1, s.2, u)
      | .error e s => .error e (s.1, s.2, u) := by
  simp only [EStateM.run, besides]
  cases x (w, t) <;> rfl

@[simp] theorem run_withState (start : υ) (x : VisitM (τ × υ) α) (w : World) (t : τ) :
    (withState start x).run (w, t) = match x.run (w, t, start) with
      | .ok a s => .ok (.ok a, s.2.2) (s.1, s.2.1)
      | .error e s => .ok (.error e, s.2.2) (s.1, s.2.1) := by
  simp only [EStateM.run, withState]
  cases x (w, t, start) <;> rfl

@[simp] theorem run_observe (start : τ) (x : VisitM τ α) (w : World) :
    (observe start x).run w = match x.run (w, start) with
      | .ok a s => .ok (.ok a, s.2) s.1
      | .error e s => .ok (.error e, s.2) s.1 := by
  simp only [EStateM.run, observe]
  cases x (w, start) <;> rfl

@[simp] theorem run_collect (start : τ) (x : VisitM τ Unit) (w : World) :
    (collect start x).run w = match x.run (w, start) with
      | .ok _ s => .ok s.2 s.1
      | .error e s => .error e s.1 := by
  simp only [EStateM.run, collect]
  cases x (w, start) <;> rfl

/-- Taking notes of keys that are shown one after the other lists them. -/
theorem run_forM_note (keys seen : List Bytes) (w : World) :
    (keys.forM fun key => (VisitM.note (· ++ [key]) : VisitM (List Bytes) Unit)).run (w, seen) =
      .ok () (w, seen ++ keys) := by
  induction keys generalizing seen with
  | nil => rw [List.append_nil]; rfl
  | cons key rest ih =>
    have noted : (VisitM.note (· ++ [key]) : VisitM (List Bytes) Unit).run (w, seen) =
      .ok () (w, seen ++ [key]) := rfl
    simp only [List.forM, EStateM.run_bind, noted, ih, List.append_assoc, List.singleton_append]

end VisitM

end StoreGraph
