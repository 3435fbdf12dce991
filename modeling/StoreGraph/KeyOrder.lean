/-! # Orders on keys

A key type carries one decidable strict total order, chosen here once and for all, so that every
enumeration in the library has a definite order. Lists are ordered lexicographically, a proper
beginning first; pairs by their first component, then by their second.

Main statements: each instance is irreflexive, transitive and connected (two keys of which neither
comes first are equal).
-/

namespace StoreGraph

/-- A decidable strict total order. `before a b` says that `a` comes strictly first. -/
class KeyOrder (κ : Type) where
  before : κ → κ → Bool
  before_self : ∀ a, before a a = false
  before_trans : ∀ {a b c}, before a b = true → before b c = true → before a c = true
  eq_of_not_before : ∀ {a b}, before a b = false → before b a = false → a = b

namespace KeyOrder

variable {κ : Type} [KeyOrder κ]

theorem before_asymm {a b : κ} (h : before a b = true) : before b a = false := by
  cases hba : before b a with
  | false => rfl
  | true => simpa [before_self] using before_trans h hba

theorem ne_of_before {a b : κ} (h : before a b = true) : a ≠ b := by
  rintro rfl
  simp [before_self] at h

/-- An order read off an injective numbering of the keys. -/
@[reducible] def ofNumbering {α : Type} (number : α → Nat)
    (injective : ∀ {a b}, number a = number b → a = b) : KeyOrder α where
  before a b := decide (number a < number b)
  before_self a := by simp
  before_trans h₁ h₂ := by
    simp only [decide_eq_true_eq] at h₁ h₂ ⊢
    omega
  eq_of_not_before h₁ h₂ := by
    simp only [decide_eq_false_iff_not] at h₁ h₂
    exact injective (by omega)

/-- An order read off an injective map into an ordered type. -/
@[reducible] def ofKey {α : Type} (key : α → κ)
    (injective : ∀ {a b}, key a = key b → a = b) : KeyOrder α where
  before a b := before (key a) (key b)
  before_self a := before_self (key a)
  before_trans h₁ h₂ := before_trans h₁ h₂
  eq_of_not_before h₁ h₂ := injective (eq_of_not_before h₁ h₂)

instance : KeyOrder Nat := ofNumbering id id

instance : KeyOrder UInt8 := ofNumbering UInt8.toNat UInt8.toNat_inj.1

instance : KeyOrder UInt64 := ofNumbering UInt64.toNat UInt64.toNat_inj.1

end KeyOrder

open KeyOrder

/-- The lexicographic order of lists: a proper beginning comes first. -/
def lexBefore {α : Type} [KeyOrder α] : List α → List α → Bool
  | [], [] => false
  | [], _ :: _ => true
  | _ :: _, [] => false
  | a :: as, b :: bs => before a b || (!before b a && lexBefore as bs)

instance {α : Type} [KeyOrder α] : KeyOrder (List α) where
  before := lexBefore
  before_self as := by
    induction as with
    | nil => rfl
    | cons a as ih => simp [lexBefore, before_self, ih]
  before_trans := by
    intro as bs cs h₁ h₂
    induction as generalizing bs cs with
    | nil =>
      cases bs with
      | nil => simp [lexBefore] at h₁
      | cons b bs => cases cs with
        | nil => simp [lexBefore] at h₂
        | cons c cs => rfl
    | cons a as ih =>
      cases bs with
      | nil => simp [lexBefore] at h₁
      | cons b bs => cases cs with
        | nil => simp [lexBefore] at h₂
        | cons c cs =>
          simp only [lexBefore, Bool.or_eq_true, Bool.and_eq_true, Bool.not_eq_true'] at h₁ h₂ ⊢
          rcases h₁ with hab | ⟨hba, hs₁⟩
          · rcases h₂ with hbc | ⟨hcb, _⟩
            · exact .inl (before_trans hab hbc)
            · cases hbc : before b c with
              | true => exact .inl (before_trans hab hbc)
              | false =>
                have := eq_of_not_before hbc hcb
                subst this
                exact .inl hab
          · rcases h₂ with hbc | ⟨hcb, hs₂⟩
            · cases hab : before a b with
              | true => exact .inl (before_trans hab hbc)
              | false =>
                have := eq_of_not_before hab hba
                subst this
                exact .inl hbc
            · cases hab : before a b with
              | true =>
                cases hbc : before b c with
                | true => exact .inl (before_trans hab hbc)
                | false =>
                  have := eq_of_not_before hbc hcb
                  subst this
                  exact .inl hab
              | false =>
                have := eq_of_not_before hab hba
                subst this
                exact .inr ⟨hcb, ih hs₁ hs₂⟩
  eq_of_not_before := by
    intro as bs h₁ h₂
    induction as generalizing bs with
    | nil => cases bs with
      | nil => rfl
      | cons b bs => simp [lexBefore] at h₁
    | cons a as ih => cases bs with
      | nil => simp [lexBefore] at h₂
      | cons b bs =>
        simp only [lexBefore, Bool.or_eq_false_iff, Bool.and_eq_false_iff,
          Bool.not_eq_false'] at h₁ h₂
        have hab := eq_of_not_before h₁.1 h₂.1
        subst hab
        have h₁' := h₁.2
        have h₂' := h₂.2
        simp only [before_self, Bool.false_eq_true, false_or] at h₁' h₂'
        rw [ih h₁' h₂']

instance {α β : Type} [KeyOrder α] [KeyOrder β] : KeyOrder (α × β) where
  before p q := before p.1 q.1 || (!before q.1 p.1 && before p.2 q.2)
  before_self p := by simp [before_self]
  before_trans := by
    intro p q r h₁ h₂
    simp only [Bool.or_eq_true, Bool.and_eq_true, Bool.not_eq_true'] at h₁ h₂ ⊢
    rcases h₁ with hab | ⟨hba, hs₁⟩
    · rcases h₂ with hbc | ⟨hcb, _⟩
      · exact .inl (before_trans hab hbc)
      · cases hbc : before q.1 r.1 with
        | true => exact .inl (before_trans hab hbc)
        | false => exact .inl (eq_of_not_before hbc hcb ▸ hab)
    · cases hab : before p.1 q.1 with
      | true =>
        rcases h₂ with hbc | ⟨hcb, _⟩
        · exact .inl (before_trans hab hbc)
        · cases hbc : before q.1 r.1 with
          | true => exact .inl (before_trans hab hbc)
          | false => exact .inl (eq_of_not_before hbc hcb ▸ hab)
      | false =>
        have heq := eq_of_not_before hab hba
        rcases h₂ with hbc | ⟨hcb, hs₂⟩
        · exact .inl (heq ▸ hbc)
        · exact .inr ⟨heq ▸ hcb, before_trans hs₁ hs₂⟩
  eq_of_not_before := by
    intro p q h₁ h₂
    simp only [Bool.or_eq_false_iff, Bool.and_eq_false_iff, Bool.not_eq_false'] at h₁ h₂
    have hfst := eq_of_not_before h₁.1 h₂.1
    rcases p with ⟨p₁, p₂⟩
    rcases q with ⟨q₁, q₂⟩
    simp only at hfst h₁ h₂
    subst hfst
    simp only [before_self, Bool.false_eq_true, false_or] at h₁ h₂
    rw [eq_of_not_before h₁.2 h₂.2]

end StoreGraph
