import Mathlib.Data.List.Pairwise
import Mathlib.Logic.Function.Basic
import StoreGraph.Index.MultiValue

/-! # Links and when they were made

What a history of changes says about a multi-value index: which primary keys are linked to a
secondary key, and since when (`linkedSince`). Ordered by that, they are the list that the index is
to answer with (`Listed`), and there is one such list only. `LinkChange.revise` is what a change
does to it.
-/

namespace StoreGraph

/-- A change that an index is asked for. -/
inductive LinkChange where
  | link (primary secondary : Bytes)
  | unlink (primary secondary : Bytes)
  deriving Repr, DecidableEq

namespace LinkChange

/-- The only secondary key that the change concerns. -/
def secondary : LinkChange → Bytes
  | link _ secondary | unlink _ secondary => secondary

/-- What becomes of the primary keys of that secondary key. -/
def revise : LinkChange → List Bytes → List Bytes
  | link primary _, primaries =>
    if primary ∈ primaries then primaries else primaries ++ [primary]
  | unlink primary _, primaries => primaries.filter (· ≠ primary)

def apply (change : LinkChange) (linked : Bytes → List Bytes) : Bytes → List Bytes :=
  Function.update linked change.secondary (change.revise (linked change.secondary))

end LinkChange

/-- How many changes were made before the link that holds between two keys, if they are linked. The
    last change stands first. -/
def linkedSince (primary secondary : Bytes) : List LinkChange → Option Nat
  | [] => none
  | .link p s :: earlier =>
    match linkedSince primary secondary earlier with
    | some time => some time
    | none => if p = primary ∧ s = secondary then some earlier.length else none
  | .unlink p s :: earlier =>
    if p = primary ∧ s = secondary then none else linkedSince primary secondary earlier

/-- The primary keys that are linked to a secondary key, each of them once, and those that were
    linked earlier before those that were linked later. -/
structure Listed (history : List LinkChange) (secondary : Bytes) (primaries : List Bytes) :
    Prop where
  linked : ∀ primary, primary ∈ primaries ↔ linkedSince primary secondary history ≠ none
  once : primaries.Nodup
  ordered : primaries.Pairwise fun p q => ∃ i j, linkedSince p secondary history = some i ∧
    linkedSince q secondary history = some j ∧ i < j

section History

variable {history : List LinkChange} {primary secondary p s : Bytes} {primaries : List Bytes}

theorem linkedSince_lt {time : Nat} (linked : linkedSince primary secondary history = some time) :
    time < history.length := by
  induction history with
  | nil => cases linked
  | cons change earlier ih =>
    cases change with
    | link p s =>
      rw [linkedSince] at linked
      cases before : linkedSince primary secondary earlier with
      | some time' =>
        rw [before] at linked
        cases linked
        exact Nat.lt_succ_of_lt (ih before)
      | none =>
        rw [before] at linked
        dsimp only at linked
        split at linked
        · cases linked
          exact Nat.lt_succ_self _
        · cases linked
    | unlink p s =>
      rw [linkedSince] at linked
      split at linked
      · cases linked
      · exact Nat.lt_succ_of_lt (ih linked)

/-- A change concerns one pair of keys. -/
theorem linkedSince_cons_of_ne {change : LinkChange}
    (other : change ≠ .link primary secondary ∧ change ≠ .unlink primary secondary) :
    linkedSince primary secondary (change :: history) = linkedSince primary secondary history := by
  cases change with
  | link p s =>
    have apart : ¬ (p = primary ∧ s = secondary) := by
      rintro ⟨rfl, rfl⟩
      exact other.1 rfl
    rw [linkedSince, if_neg apart]
    cases linkedSince primary secondary history <;> rfl
  | unlink p s =>
    have apart : ¬ (p = primary ∧ s = secondary) := by
      rintro ⟨rfl, rfl⟩
      exact other.2 rfl
    rw [linkedSince, if_neg apart]

/-- Linking keys again does not change since when they are linked. -/
theorem linkedSince_relink (linked : linkedSince p s history ≠ none) :
    linkedSince primary secondary (.link p s :: history) =
      linkedSince primary secondary history := by
  by_cases same : p = primary ∧ s = secondary
  · obtain ⟨rfl, rfl⟩ := same
    rw [linkedSince]
    cases before : linkedSince p s history with
    | none => exact absurd before linked
    | some time => rfl
  · exact linkedSince_cons_of_ne ⟨by grind, nofun⟩

theorem linkedSince_link (unlinked : linkedSince p s history = none) :
    linkedSince p s (.link p s :: history) = some history.length := by
  rw [linkedSince, unlinked]
  exact if_pos ⟨rfl, rfl⟩

theorem linkedSince_unlink : linkedSince p s (.unlink p s :: history) = none :=
  if_pos ⟨rfl, rfl⟩

namespace Listed

theorem nil (secondary : Bytes) : Listed [] secondary [] :=
  ⟨fun _ => ⟨nofun, fun h => absurd rfl h⟩, List.nodup_nil, .nil⟩

/-- A change after which the same pairs are linked since the same time. -/
theorem congr {history' : List LinkChange} (listed : Listed history secondary primaries)
    (same : ∀ primary, linkedSince primary secondary history' =
      linkedSince primary secondary history) : Listed history' secondary primaries := by
  refine ⟨?_, listed.once, ?_⟩
  · intro primary
    rw [same, listed.linked]
  · simpa only [same] using listed.ordered

theorem link (listed : Listed history secondary primaries) (primary : Bytes) :
    Listed (.link primary secondary :: history) secondary
      ((LinkChange.link primary secondary).revise primaries) := by
  by_cases known : primary ∈ primaries
  · rw [LinkChange.revise, if_pos known]
    exact listed.congr fun _ => linkedSince_relink ((listed.linked primary).mp known)
  · rw [LinkChange.revise, if_neg known]
    have unlinked : linkedSince primary secondary history = none := by
      by_contra linked
      exact known ((listed.linked primary).mpr linked)
    have new := linkedSince_link unlinked
    have others : ∀ p, p ≠ primary →
        linkedSince p secondary (.link primary secondary :: history) =
          linkedSince p secondary history := fun p other =>
      linkedSince_cons_of_ne ⟨by grind, nofun⟩
    have known_ne : ∀ p ∈ primaries, p ≠ primary := by
      rintro p member rfl
      exact known member
    refine ⟨?_, ?_, ?_⟩
    · intro p
      rw [List.mem_append, List.mem_singleton]
      by_cases same : p = primary
      · simp [same, new]
      · simp [same, others p same, listed.linked]
    · exact List.nodup_append.mpr ⟨listed.once, List.nodup_cons.mpr ⟨nofun, List.nodup_nil⟩,
        fun p member q last => List.mem_singleton.mp last ▸ known_ne p member⟩
    · refine List.pairwise_append.mpr ⟨?_, List.pairwise_singleton _ _, ?_⟩
      · refine listed.ordered.imp_of_mem ?_
        rintro p q first second ⟨i, j, since, since', less⟩
        rw [others p (known_ne p first), others q (known_ne q second)]
        exact ⟨i, j, since, since', less⟩
      · intro p member q last
        rw [List.mem_singleton.mp last, others p (known_ne p member)]
        obtain ⟨i, since⟩ := Option.ne_none_iff_exists'.mp ((listed.linked p).mp member)
        exact ⟨i, history.length, since, new, linkedSince_lt since⟩

theorem unlink (listed : Listed history secondary primaries) (primary : Bytes) :
    Listed (.unlink primary secondary :: history) secondary
      ((LinkChange.unlink primary secondary).revise primaries) := by
  have others : ∀ p, p ≠ primary →
      linkedSince p secondary (.unlink primary secondary :: history) =
        linkedSince p secondary history := fun p other =>
    linkedSince_cons_of_ne ⟨nofun, by grind⟩
  rw [LinkChange.revise]
  refine ⟨?_, listed.once.filter _, ?_⟩
  · intro p
    rw [List.mem_filter, decide_eq_true_eq]
    by_cases same : p = primary
    · rw [same, linkedSince_unlink]
      simp
    · simp [same, others p same, listed.linked]
  · refine (listed.ordered.filter _).imp_of_mem ?_
    rintro p q first second ⟨i, j, since, since', less⟩
    have other := of_decide_eq_true (List.mem_filter.mp first).2
    have other' := of_decide_eq_true (List.mem_filter.mp second).2
    rw [others p other, others q other']
    exact ⟨i, j, since, since', less⟩

/-- What one change does to the list of any secondary key. -/
theorem change {linked : Bytes → List Bytes} (listed : ∀ s, Listed history s (linked s))
    (change : LinkChange) (s : Bytes) : Listed (change :: history) s (change.apply linked s) := by
  by_cases own : s = change.secondary
  · subst own
    rw [LinkChange.apply, Function.update_self]
    cases change with
    | link p s => exact (listed s).link p
    | unlink p s => exact (listed s).unlink p
  · rw [LinkChange.apply, Function.update_of_ne own]
    refine (listed s).congr fun primary => linkedSince_cons_of_ne ⟨?_, ?_⟩
    · rintro rfl
      exact own rfl
    · rintro rfl
      exact own rfl

/-- The history determines the list. -/
theorem unique {primaries' : List Bytes} (listed : Listed history secondary primaries)
    (listed' : Listed history secondary primaries') : primaries = primaries' := by
  have same : primaries.Perm primaries' :=
    (List.perm_ext_iff_of_nodup listed.once listed'.once).mpr fun p =>
      (listed.linked p).trans (listed'.linked p).symm
  refine same.eq_of_pairwise ?_ listed.ordered listed'.ordered
  rintro p q _ _ ⟨i, j, since, since', less⟩ ⟨i', j', since₁, since₁', less'⟩
  grind

end Listed

end History

end StoreGraph
