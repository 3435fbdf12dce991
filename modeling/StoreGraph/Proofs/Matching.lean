import Mathlib.Data.List.Forall2
import StoreGraph.Proofs.Action
import StoreGraph.Storage

/-! # Two actions that do the same

Two actions match if they do the same in every two related states: they give one answer or one
failure, and leave related states. What is composed of matching actions in the same way matches
again, so that two stores that match cannot be told apart by whatever is built over them.
-/

namespace StoreGraph

/-- Two actions have ended in the same way, and in related states. -/
inductive EndsAlike {σ α : Type} (R : σ → σ → Prop) (first second : EStateM.Result Error σ α) :
    Prop where
  | ok {a s₁ s₂} (first : first = .ok a s₁) (second : second = .ok a s₂) (related : R s₁ s₂)
  | error {e s₁ s₂} (first : first = .error e s₁) (second : second = .error e s₂)
      (related : R s₁ s₂)

/-- In related states the two actions end in the same way, and in related states again. -/
def Matches {σ α : Type} (R : σ → σ → Prop) (x y : EStateM Error σ α) : Prop :=
  ∀ s₁ s₂, R s₁ s₂ → EndsAlike R (x.run s₁) (y.run s₂)

/-- A relation on worlds, for enumerations whose visitors are in the same state. -/
def Alongside (R : World → World → Prop) {τ : Type} (s₁ s₂ : World × τ) : Prop :=
  R s₁.1 s₂.1 ∧ s₁.2 = s₂.2

namespace Matches

section Sequence

variable {σ α β : Type} {R : σ → σ → Prop} {x y : EStateM Error σ α} {f g : α → EStateM Error σ β}
  {s₁ s₂ : σ}

theorem outcome_eq (h : Matches R x y) (related : R s₁ s₂) : outcome x s₁ = outcome y s₂ := by
  cases h s₁ s₂ related with
  | ok first second _ => rw [outcome_ok first, outcome_ok second]
  | error first second _ => rw [outcome_error first, outcome_error second]

theorem stateAfter_related (h : Matches R x y) (related : R s₁ s₂) :
    R (stateAfter x s₁) (stateAfter y s₂) := by
  cases h s₁ s₂ related with
  | ok first second related => rwa [stateAfter_ok first, stateAfter_ok second]
  | error first second related => rwa [stateAfter_error first, stateAfter_error second]

theorem pure (a : α) : Matches R (Pure.pure a) (Pure.pure a) := fun _ _ => .ok rfl rfl

theorem throw (e : Error) :
    Matches R (MonadExcept.throw e : EStateM Error σ α) (MonadExcept.throw e) :=
  fun _ _ => .error rfl rfl

theorem bind (first : Matches R x y) (next : ∀ a, Matches R (f a) (g a)) :
    Matches R (x >>= f) (y >>= g) := by
  intro s₁ s₂ related
  rw [EStateM.run_bind, EStateM.run_bind]
  cases first s₁ s₂ related with
  | ok first second related =>
    rw [first, second]
    exact next _ _ _ related
  | error first second related =>
    rw [first, second]
    exact .error rfl rfl related

theorem map (h : Matches R x y) (f : α → β) : Matches R (f <$> x) (f <$> y) := by
  rw [map_eq_pure_bind, map_eq_pure_bind]
  exact h.bind fun a => .pure (f a)

theorem attempt (h : Matches R x y) : Matches R (attempt x) (attempt y) := by
  intro s₁ s₂ related
  rw [run_attempt, run_attempt]
  cases h s₁ s₂ related with
  | ok first second related =>
    rw [first, second]
    exact .ok rfl rfl related
  | error first second related =>
    rw [first, second]
    exact .ok rfl rfl related

theorem ofExcept (outcome : Except Error α) : Matches R (ofExcept outcome) (ofExcept outcome) := by
  cases outcome with
  | ok a => exact .pure a
  | error e => exact .throw e

theorem gatherFailures {xs ys : List (String × EStateM Error σ Unit)}
    (each : List.Forall₂ (fun x y => x.1 = y.1 ∧ Matches R x.2 y.2) xs ys) :
    Matches R (gatherFailures xs) (gatherFailures ys) := by
  induction each with
  | nil => exact .pure []
  | @cons x y xs ys both _ ih =>
    obtain ⟨doing, x⟩ := x
    obtain ⟨doing', y⟩ := y
    obtain ⟨rfl, first⟩ := both
    refine .bind first.attempt fun outcome => ?_
    cases outcome with
    | ok _ => exact ih
    | error e => exact .bind ih fun failures => .pure _

theorem forM {xs : List α} {f g : α → EStateM Error σ PUnit}
    (each : ∀ a ∈ xs, Matches R (f a) (g a)) : Matches R (xs.forM f) (xs.forM g) := by
  induction xs with
  | nil => exact .pure _
  | cons a rest ih =>
    exact .bind (each a List.mem_cons_self) fun _ =>
      ih fun a member => each a (List.mem_cons_of_mem _ member)

end Sequence

/-- Actions that are numbered in the same way match if they did. -/
theorem forall₂_numbered {γ : Type _} {R : γ → γ → Prop} (doing : String) {xs ys : List γ}
    (each : List.Forall₂ R xs ys) :
    List.Forall₂ (fun x y => x.1 = y.1 ∧ R x.2 y.2) (numbered doing xs) (numbered doing ys) := by
  unfold StoreGraph.numbered
  generalize 0 = start
  induction each generalizing start with
  | nil => exact .nil
  | cons first _ ih => exact .cons ⟨rfl, first⟩ (ih (start + 1))

section Visits

variable {R : World → World → Prop} {τ υ α : Type}

theorem visiting {x y : StoreM α} (h : Matches R x y) :
    Matches (Alongside R) (StoreM.visiting x : VisitM τ α) (StoreM.visiting y) := by
  rintro ⟨w₁, t⟩ ⟨w₂, _⟩ ⟨related, rfl⟩
  rw [StoreM.run_visiting, StoreM.run_visiting]
  cases h w₁ w₂ related with
  | ok first second related =>
    rw [first, second]
    exact .ok rfl rfl ⟨related, rfl⟩
  | error first second related =>
    rw [first, second]
    exact .error rfl rfl ⟨related, rfl⟩

theorem besides {x y : VisitM τ α} (h : Matches (Alongside R) x y) :
    Matches (Alongside R) (VisitM.besides x : VisitM (τ × υ) α) (VisitM.besides y) := by
  rintro ⟨w₁, t, u⟩ ⟨w₂, _⟩ ⟨related, rfl⟩
  rw [VisitM.run_besides, VisitM.run_besides]
  cases h (w₁, t) (w₂, t) ⟨related, rfl⟩ with
  | ok first second both =>
    rw [first, second]
    exact .ok rfl rfl ⟨both.1, Prod.ext both.2 rfl⟩
  | error first second both =>
    rw [first, second]
    exact .error rfl rfl ⟨both.1, Prod.ext both.2 rfl⟩

theorem withState (start : υ) {x y : VisitM (τ × υ) α} (h : Matches (Alongside R) x y) :
    Matches (Alongside R) (VisitM.withState start x) (VisitM.withState start y) := by
  rintro ⟨w₁, t⟩ ⟨w₂, _⟩ ⟨related, rfl⟩
  rw [VisitM.run_withState, VisitM.run_withState]
  cases h (w₁, t, start) (w₂, t, start) ⟨related, rfl⟩ with
  | ok first second both =>
    rw [first, second]
    dsimp only
    rw [← both.2]
    exact .ok rfl rfl ⟨both.1, rfl⟩
  | error first second both =>
    rw [first, second]
    dsimp only
    rw [← both.2]
    exact .ok rfl rfl ⟨both.1, rfl⟩

theorem note (f : τ → τ) : Matches (Alongside R) (VisitM.note f) (VisitM.note f) := by
  rintro ⟨w₁, t⟩ ⟨w₂, _⟩ ⟨related, rfl⟩
  exact .ok rfl rfl ⟨related, rfl⟩

theorem observe (start : τ) {x y : VisitM τ α} (h : Matches (Alongside R) x y) :
    Matches R (VisitM.observe start x) (VisitM.observe start y) := by
  intro w₁ w₂ related
  rw [VisitM.run_observe, VisitM.run_observe]
  cases h (w₁, start) (w₂, start) ⟨related, rfl⟩ with
  | ok first second both =>
    rw [first, second]
    dsimp only
    rw [← both.2]
    exact .ok rfl rfl both.1
  | error first second both =>
    rw [first, second]
    dsimp only
    rw [← both.2]
    exact .ok rfl rfl both.1

end Visits

end Matches

/-! Every action matches itself if states are related only to themselves, and matches no other. -/

theorem Matches.refl {σ α : Type} (x : EStateM Error σ α) : Matches Eq x x := by
  rintro s _ rfl
  cases x.run s with
  | ok a s' => exact .ok rfl rfl rfl
  | error e s' => exact .error rfl rfl rfl

theorem alongside_eq {τ : Type} : (Alongside Eq : World × τ → World × τ → Prop) = Eq := by
  funext s₁ s₂
  exact propext Prod.ext_iff.symm

theorem Matches.eq {σ α : Type} {x y : EStateM Error σ α} (h : Matches Eq x y) : x = y := by
  funext s
  cases h s s rfl with
  | ok first second related => exact first.trans (related ▸ second.symm)
  | error first second related => exact first.trans (related ▸ second.symm)

/-- Two stores match in all that they do for a key and for a visitor, and in being emptied. -/
structure Storage.Matches (R : World → World → Prop) (s s' : Storage) : Prop where
  put : ∀ key value, StoreGraph.Matches R (s.put key value) (s'.put key value)
  get : ∀ key, StoreGraph.Matches R (s.get key) (s'.get key)
  del : ∀ key, StoreGraph.Matches R (s.del key) (s'.del key)
  keys : ∀ {τ : Type} {visit visit' : Bytes → VisitM τ Unit},
    (∀ key, StoreGraph.Matches (Alongside R) (visit key) (visit' key)) →
      StoreGraph.Matches (Alongside R) (s.keys visit) (s'.keys visit')
  clear : Option.Rel (StoreGraph.Matches R) s.clear? s'.clear?

theorem Storage.Matches.refl (s : Storage) : s.Matches Eq s where
  put _ _ := .refl _
  get _ := .refl _
  del _ := .refl _
  keys {τ visit visit'} visits := by
    simp only [alongside_eq] at visits ⊢
    rw [show visit = visit' from funext fun key => (visits key).eq]
    exact .refl _
  clear := by
    cases s.clear? with
    | none => exact .none
    | some x => exact .some (StoreGraph.Matches.refl x)

theorem Storage.Matches.find {R : World → World → Prop} {s s' : Storage} (h : s.Matches R s')
    (key : Bytes) : StoreGraph.Matches R (s.find? key) (s'.find? key) := by
  refine .bind (h.get key).attempt fun outcome => ?_
  cases outcome with
  | ok value => exact .pure _
  | error e =>
    dsimp only
    split
    · exact .pure none
    · exact .throw e

theorem Storage.Matches.contains {R : World → World → Prop} {s s' : Storage} (h : s.Matches R s')
    (key : Bytes) : StoreGraph.Matches R (s.contains key) (s'.contains key) :=
  .bind (h.find key) fun _ => .pure _

end StoreGraph
