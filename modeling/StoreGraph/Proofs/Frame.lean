import StoreGraph.Proofs.Enumeration

/-! # What actions leave alone

A relation between the states before and after an action bounds what the action changes, however it
ends. If every primitive action keeps to a relation then so does what is composed of them, so that
nothing has to be known about the course of an action in order to say what it leaves alone.
-/

namespace StoreGraph

/-- However the action ends, the states before and after it are related. -/
def Moves {σ α : Type} (R : σ → σ → Prop) (x : EStateM Error σ α) : Prop :=
  ∀ s, R s (stateAfter x s)

/-- A relation that bounds several changes if it bounds each of them. -/
structure Frame {σ : Type} (R : σ → σ → Prop) : Prop where
  refl : ∀ s, R s s
  trans : ∀ {s₁ s₂ s₃}, R s₁ s₂ → R s₂ s₃ → R s₁ s₃

/-- What a function of the state is equal to stays the same. -/
theorem frame_same {σ υ : Type} (f : σ → υ) : Frame fun s s' => f s' = f s :=
  ⟨fun _ => rfl, fun first second => second.trans first⟩

/-- A relation on worlds, in states of which the world is a part. -/
theorem Frame.world {R : World → World → Prop} (frame : Frame R) {τ : Type} :
    Frame fun s s' : World × τ => R s.1 s'.1 :=
  ⟨fun s => frame.refl s.1, frame.trans⟩

namespace Moves

section Sequence

variable {σ α β : Type} {R : σ → σ → Prop} {x : EStateM Error σ α} {s s' : σ}

theorem of_ok {a : α} (h : Moves R x) (run : x.run s = .ok a s') : R s s' := by
  have moved := h s
  rwa [stateAfter, run] at moved

theorem of_error {e : Error} (h : Moves R x) (run : x.run s = .error e s') : R s s' := by
  have moved := h s
  rwa [stateAfter, run] at moved

theorem pure (frame : Frame R) (a : α) : Moves R (Pure.pure a : EStateM Error σ α) := frame.refl

theorem throw (frame : Frame R) (e : Error) :
    Moves R (MonadExcept.throw e : EStateM Error σ α) := frame.refl

theorem bind (frame : Frame R) {f : α → EStateM Error σ β} (first : Moves R x)
    (next : ∀ a, Moves R (f a)) : Moves R (x >>= f) := by
  intro s
  have moved := first s
  simp only [stateAfter, EStateM.run_bind] at moved ⊢
  cases ran : x.run s with
  | error e s₁ =>
    rw [ran] at moved
    exact moved
  | ok a s₁ =>
    rw [ran] at moved
    exact frame.trans moved (next a s₁)

theorem attempt (h : Moves R x) : Moves R (attempt x) := by
  intro s
  have moved := h s
  simp only [stateAfter, run_attempt] at moved ⊢
  cases ran : x.run s with
  | error e s₁ =>
    rw [ran] at moved
    exact moved
  | ok a s₁ =>
    rw [ran] at moved
    exact moved

theorem ofExcept (frame : Frame R) (outcome : Except Error α) :
    Moves R (ofExcept outcome : EStateM Error σ α) := by
  cases outcome with
  | ok a => exact .pure frame a
  | error e => exact .throw frame e

theorem gatherFailures (frame : Frame R) {actions : List (String × EStateM Error σ Unit)}
    (each : ∀ action ∈ actions, Moves R action.2) : Moves R (gatherFailures actions) := by
  induction actions with
  | nil => exact .pure frame []
  | cons action rest ih =>
    have later := ih fun action member => each action (List.mem_cons_of_mem _ member)
    refine .bind frame (each action List.mem_cons_self).attempt fun outcome => ?_
    cases outcome with
    | ok _ => exact later
    | error e => exact .bind frame later fun failures => .pure frame _

theorem forM (frame : Frame R) {xs : List α} {f : α → EStateM Error σ PUnit}
    (each : ∀ a ∈ xs, Moves R (f a)) : Moves R (xs.forM f) := by
  induction xs with
  | nil => exact frame.refl
  | cons a rest ih =>
    exact .bind frame (each a List.mem_cons_self) fun _ =>
      ih fun a member => each a (List.mem_cons_of_mem _ member)

end Sequence

section Visits

variable {R : World → World → Prop} {τ υ α : Type}

theorem visiting {x : StoreM α} (h : Moves R x) :
    Leaves R (StoreM.visiting x : VisitM τ α) := by
  rintro ⟨w, t⟩
  have moved := h w
  simp only [stateAfter, StoreM.run_visiting] at moved ⊢
  cases ran : x.run w with
  | error e w₁ =>
    rw [ran] at moved
    exact moved
  | ok a w₁ =>
    rw [ran] at moved
    exact moved

theorem besides {x : VisitM τ α} (h : Leaves R x) :
    Leaves R (VisitM.besides x : VisitM (τ × υ) α) := by
  rintro ⟨w, t, u⟩
  have moved := h (w, t)
  simp only [stateAfter, VisitM.run_besides] at moved ⊢
  cases ran : x.run (w, t) with
  | error e s =>
    rw [ran] at moved
    exact moved
  | ok a s =>
    rw [ran] at moved
    exact moved

theorem withState (start : υ) {x : VisitM (τ × υ) α} (h : Leaves R x) :
    Leaves R (VisitM.withState start x) := by
  rintro ⟨w, t⟩
  have moved := h (w, t, start)
  simp only [stateAfter, VisitM.run_withState] at moved ⊢
  cases ran : x.run (w, t, start) with
  | error e s =>
    rw [ran] at moved
    exact moved
  | ok a s =>
    rw [ran] at moved
    exact moved

theorem note (frame : Frame R) (f : τ → τ) : Leaves R (VisitM.note f) :=
  fun s => frame.refl s.1

/-- Looking up a key changes no more than reading it does. -/
theorem find {s : Storage} {key : Bytes} (frame : Frame R) (reads : Moves R (s.get key)) :
    Moves R (s.find? key) := by
  refine .bind frame reads.attempt fun outcome => ?_
  cases outcome with
  | ok value => exact .pure frame _
  | error e =>
    dsimp only
    split
    · exact .pure frame _
    · exact .throw frame e

end Visits

end Moves

end StoreGraph
