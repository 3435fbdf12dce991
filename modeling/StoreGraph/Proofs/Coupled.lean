import StoreGraph.Proofs.Action

/-! # One action in two worlds

An action that is run in two related worlds does the same in both: it gives one answer or one
failure, and leaves related worlds. The rules follow the way in which actions are composed, so that
only the primitive actions have to be looked at one by one.
-/

namespace StoreGraph

/-- In both worlds the action gives the same answer and leaves worlds related by `Q`, or it fails in
    the same way and leaves worlds related by `E`. -/
inductive Coupled {α : Type} (x : StoreM α) (w₁ w₂ : World) (Q : α → World → World → Prop)
    (E : World → World → Prop) : Prop where
  | ok {a w₁' w₂'} (first : x.run w₁ = .ok a w₁') (second : x.run w₂ = .ok a w₂')
      (related : Q a w₁' w₂')
  | error {e w₁' w₂'} (first : x.run w₁ = .error e w₁') (second : x.run w₂ = .error e w₂')
      (related : E w₁' w₂')

namespace Coupled

variable {α β : Type} {x : StoreM α} {f : α → StoreM β} {w₁ w₂ : World}
  {P Q : α → World → World → Prop} {R : β → World → World → Prop} {E F : World → World → Prop}

theorem mono (h : Coupled x w₁ w₂ P E) (answer : ∀ a u₁ u₂, P a u₁ u₂ → Q a u₁ u₂)
    (failure : ∀ u₁ u₂, E u₁ u₂ → F u₁ u₂) : Coupled x w₁ w₂ Q F := by
  cases h with
  | ok first second related => exact .ok first second (answer _ _ _ related)
  | error first second related => exact .error first second (failure _ _ related)

theorem pure {a : α} (h : Q a w₁ w₂) : Coupled (Pure.pure a) w₁ w₂ Q E := .ok rfl rfl h

theorem throw {e : Error} (h : E w₁ w₂) : Coupled (MonadExcept.throw e : StoreM α) w₁ w₂ Q E :=
  .error rfl rfl h

theorem bind (first : Coupled x w₁ w₂ P E)
    (next : ∀ a u₁ u₂, P a u₁ u₂ → Coupled (f a) u₁ u₂ R E) : Coupled (x >>= f) w₁ w₂ R E := by
  have opened : ∀ {w w' : World} {a : α}, x.run w = .ok a w' → (x >>= f).run w = (f a).run w' := by
    intro w w' a run
    rw [EStateM.run_bind, run]
  have stuck : ∀ {w w' : World} {e : Error}, x.run w = .error e w' →
      (x >>= f).run w = .error e w' := by
    intro w w' e run
    rw [EStateM.run_bind, run]
  cases first with
  | error first second related => exact .error (stuck first) (stuck second) related
  | ok first second related =>
    cases next _ _ _ related with
    | ok first' second' related' =>
      exact .ok ((opened first).trans first') ((opened second).trans second') related'
    | error first' second' related' =>
      exact .error ((opened first).trans first') ((opened second).trans second') related'

theorem inContext (doing : String) (h : Coupled x w₁ w₂ Q E) :
    Coupled (withContext doing x) w₁ w₂ Q E := by
  cases h with
  | ok first second related =>
    exact .ok (by rw [run_withContext, first]) (by rw [run_withContext, second]) related
  | error first second related =>
    exact .error (by rw [run_withContext, first]) (by rw [run_withContext, second]) related

/-- An attempt goes on from a failure as from an answer. -/
theorem attempt (h : Coupled x w₁ w₂ Q E) :
    Coupled (attempt x) w₁ w₂ (fun outcome u₁ u₂ => match outcome with
      | .ok a => Q a u₁ u₂
      | .error _ => E u₁ u₂) F := by
  cases h with
  | ok first second related =>
    exact .ok (by rw [run_attempt, first]) (by rw [run_attempt, second]) related
  | error first second related =>
    exact .ok (by rw [run_attempt, first]) (by rw [run_attempt, second]) related

end Coupled

end StoreGraph
