import Mathlib.Data.List.Forall2
import StoreGraph.Proofs.Action
import StoreGraph.Resolver

/-! # Building actions, side by side

What is said of a building action is said of two actions at once: that they do the same, and what
they do. Building with one bound on the depth of the graph and building with another are compared in
this way, in the same steps in which it is shown what building does.
-/

namespace StoreGraph

/-- From the same state the two actions do the same, with an answer that satisfies `Q` or a failure
    that satisfies `E`. -/
structure Alike {α : Type} (x y : BuildM α) (built : Built) (w : World)
    (Q : α → Built → World → Prop) (E : Error → World → Prop) : Prop where
  same : (x.run built).run w = (y.run built).run w
  outcome : match (x.run built).run w with
    | .ok (a, built') w' => Q a built' w'
    | .error e w' => E e w'

namespace Alike

variable {α β : Type} {x y : BuildM α} {f g : α → BuildM β} {built : Built} {w : World}
  {P Q : α → Built → World → Prop} {R : β → Built → World → Prop} {E F : Error → World → Prop}

theorem mono (h : Alike x y built w P E) (answer : ∀ a built' w', P a built' w' → Q a built' w')
    (failure : ∀ e w', E e w' → F e w') : Alike x y built w Q F := by
  obtain ⟨same, outcome⟩ := h
  refine ⟨same, ?_⟩
  cases ran : (x.run built).run w with
  | ok result w' =>
    rw [ran] at outcome
    exact answer _ _ _ outcome
  | error e w' =>
    rw [ran] at outcome
    exact failure _ _ outcome

theorem pure {a : α} (h : Q a built w) :
    Alike (Pure.pure a : BuildM α) (Pure.pure a) built w Q E := ⟨rfl, h⟩

theorem throw {e : Error} (h : E e w) :
    Alike (MonadExcept.throw e : BuildM α) (MonadExcept.throw e) built w Q E := ⟨rfl, h⟩

theorem lift {x : StoreM α} (h : match x.run w with
    | .ok a w' => Q a built w'
    | .error e w' => E e w') : Alike (liftM x : BuildM α) (liftM x) built w Q E := by
  refine ⟨rfl, ?_⟩
  have run : ((liftM x : BuildM α).run built).run w = match x.run w with
      | .ok a w' => .ok (a, built) w'
      | .error e w' => .error e w' := by
    change (x >>= fun a => Pure.pure (a, built)).run w = _
    rw [EStateM.run_bind]
    cases x.run w <;> rfl
  rw [run]
  cases ran : x.run w with
  | ok a w' =>
    rw [ran] at h
    exact h
  | error e w' =>
    rw [ran] at h
    exact h

theorem bind (first : Alike x y built w P E)
    (next : ∀ a built' w', P a built' w' → Alike (f a) (g a) built' w' R E) :
    Alike (x >>= f) (y >>= g) built w R E := by
  obtain ⟨same, outcome⟩ := first
  cases ran : (x.run built).run w with
  | error e w' =>
    rw [ran] at same outcome
    constructor
    · rw [StateT.run_bind, StateT.run_bind, EStateM.run_bind, EStateM.run_bind, ran, ← same]
    · rw [StateT.run_bind, EStateM.run_bind, ran]
      exact outcome
  | ok result w' =>
    rw [ran] at same outcome
    obtain ⟨same', outcome'⟩ := next _ _ _ outcome
    constructor
    · rw [StateT.run_bind, StateT.run_bind, EStateM.run_bind, EStateM.run_bind, ran, ← same]
      exact same'
    · rw [StateT.run_bind, EStateM.run_bind, ran]
      exact outcome'

theorem inContext {doing : String}
    (h : Alike x y built w Q fun e w' => E (.context doing e) w') :
    Alike (Resolver.inContext doing x) (Resolver.inContext doing y) built w Q E := by
  obtain ⟨same, outcome⟩ := h
  have opened : ∀ z : BuildM α,
      (Resolver.inContext doing z).run built = withContext doing (z.run built) := fun _ => rfl
  constructor
  · rw [opened, opened, run_withContext, run_withContext, same]
  · rw [opened, run_withContext]
    cases ran : (x.run built).run w with
    | ok result w' =>
      rw [ran] at outcome
      exact outcome
    | error e w' =>
      rw [ran] at outcome
      exact outcome

/-- Stores are built for a list of identifiers, one after the other. `J` holds before and after each
    of them, and what `P` says of a store stays true as more is built. -/
theorem nodes (role : String) {node node' : Bytes → BuildM Store} {ids : List String}
    {J : Built → World → Prop} {P : String → Store → Built → World → Prop}
    {G : Built → World → Built → World → Prop} (refl : ∀ b w, G b w b w)
    (trans : ∀ {b w b₁ w₁ b₂ w₂}, G b w b₁ w₁ → G b₁ w₁ b₂ w₂ → G b w b₂ w₂)
    (stays : ∀ {id store b w b' w'}, P id store b w → G b w b' w' → P id store b' w')
    (call : ∀ id ∈ ids, ∀ built w, J built w →
      Alike (node (Bytes.ofText id)) (node' (Bytes.ofText id)) built w
        (fun store built' w' => J built' w' ∧ P id store built' w' ∧ G built w built' w')
        fun e w' => E (.context s!"get {role} '{id}'" e) w')
    (holds : J built w) :
    Alike (Resolver.nodes node role ids) (Resolver.nodes node' role ids) built w
      (fun stores built' w' => J built' w' ∧
        List.Forall₂ (fun id store => P id store built' w') ids stores ∧ G built w built' w')
      E := by
  unfold Resolver.nodes
  induction ids generalizing built w with
  | nil => exact .pure ⟨holds, .nil, refl built w⟩
  | cons id rest ih =>
    rw [List.mapM_cons, List.mapM_cons]
    refine .bind (call id List.mem_cons_self built w holds).inContext ?_
    intro store built₁ w₁ outcome
    obtain ⟨holds₁, stored, grown₁⟩ := outcome
    refine .bind (ih (fun id member => call id (List.mem_cons_of_mem _ member)) holds₁) ?_
    intro stores built₂ w₂ outcome
    obtain ⟨holds₂, others, grown₂⟩ := outcome
    exact .pure ⟨holds₂, .cons (stays stored grown₂) others, trans grown₁ grown₂⟩

end Alike

end StoreGraph
