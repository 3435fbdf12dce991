import StoreGraph.Proofs.Graph.Scratch

/-! # Writing through one store, reading through another

What is put into a store is passed on to the shard that owns the key, or to every copy, and so on
down to the leaves. If two stores pass a key on to a third one, then what is put into the first is
read from the third, and the second finds the key as well (`put_seen`). Copies that only the second
store has may hold another value, and are read first if they stand first.
-/

namespace StoreGraph.Store

/-- What is put into the first store under the key is passed on to the second one. -/
inductive PassesOn (key : Bytes) : Store → Store → Prop where
  | refl (s) : PassesOn key s s
  | sharded {pool : ShardPool} {stock s s'} (owns : stock[pool.owner key]? = some s)
      (below : PassesOn key s s') : PassesOn key (.sharded pool stock) s'
  | redundant {policy backs dedup offload s s'} (member : s ∈ backs) (below : PassesOn key s s') :
      PassesOn key (.redundant policy backs dedup offload) s'

variable {key : Bytes} {s s' : Store} {cell : Ref .memory} {w : World}

theorem PassesOn.leafFor (passes : PassesOn key s s') (leaf : LeafFor key s' cell) :
    LeafFor key s cell := by
  induction passes with
  | refl => exact leaf
  | sharded owns _ ih => exact .sharded owns (ih leaf)
  | redundant member _ ih => exact .redundant member (ih leaf)

/-- If one of the copies has the value then some copy answers. -/
theorem run_firstHitAfter_ok {failures : List Error} {reads : List (StoreM Bytes)}
    (answers : ∀ read ∈ reads, ∃ found, read.run w = answer w found)
    (hit : ∃ read ∈ reads, ∃ value, read.run w = .ok value w) :
    ∃ value, (firstHitAfter failures reads).run w = .ok value w := by
  induction reads generalizing failures with
  | nil =>
    obtain ⟨read, member, -⟩ := hit
    cases member
  | cons read rest ih =>
    obtain ⟨found, run⟩ := answers read List.mem_cons_self
    simp only [firstHitAfter, EStateM.run_bind, run_attempt, run]
    cases found with
    | some value => exact ⟨value, rfl⟩
    | none =>
      refine ih (fun read member => answers read (List.mem_cons_of_mem _ member)) ?_
      obtain ⟨read', member, value, run'⟩ := hit
      obtain rfl | member := List.mem_cons.mp member
      · rw [run] at run'
        cases run'
      · exact ⟨read', member, value, run'⟩

/-- A key that a leaf holds is found. -/
theorem run_get_held (wired : Wired s) (leaf : LeafFor key s cell)
    (held : (w.entries cell).get? key ≠ none) : ∃ value, (s.get key).run w = .ok value w := by
  induction wired with
  | memory =>
    cases leaf with
    | memory =>
      obtain ⟨value, held⟩ := Option.ne_none_iff_exists'.mp held
      exact ⟨value, by rw [get, storage, Storage.run_memory_get, held]⟩
  | @sharded pool stock ready count some below ih =>
    cases leaf with
    | sharded owns leaf =>
      rw [run_get_sharded ready owns]
      exact ih _ (List.mem_of_getElem? owns) leaf
  | @redundant demand backs dedup offload some few below ih =>
    cases leaf with
    | redundant member leaf =>
      rw [get_redundant]
      refine run_firstHitAfter_ok ?_ ⟨_, List.mem_map_of_mem member, ih _ member leaf⟩
      intro read listed
      obtain ⟨s, member, rfl⟩ := List.mem_map.mp listed
      obtain ⟨found, run, -⟩ := run_get_any (below s member) key w
      exact ⟨found, run⟩

/-- What is put into one store is read from any store that it is passed on to. Another store that
    passes the key on to the same store finds the key too, and answers what was put unless a copy
    that was not written to holds something else. -/
theorem put_seen {s₁ s₂ : Store} (wired₁ : Wired s₁) (wired₂ : Wired s₂) (wired : Wired s)
    (passes₁ : PassesOn key s₁ s) (passes₂ : PassesOn key s₂ s) (value : Bytes) (w : World) :
    ∃ w', (s₁.put key value).run w = .ok () w' ∧ (s.get key).run w' = .ok value w' ∧
      ∃ found, (s₂.get key).run w' = .ok found w' ∧
        (found = value ∨ ∃ cell, LeafFor key s₂ cell ∧ ¬ LeafFor key s₁ cell ∧
          (w.entries cell).get? key = some found) := by
  obtain ⟨w', put, wrote⟩ := writes_put wired₁ key value w
  have read : (s.get key).run w' = answer w' (some value) :=
    run_get wired fun cell leaf => wrote.written cell (passes₁.leafFor leaf)
  obtain ⟨cell, leaf⟩ := wired.exists_leafFor key
  have held : (w'.entries cell).get? key ≠ none := by
    rw [wrote.written cell (passes₁.leafFor leaf)]
    exact Option.some_ne_none value
  obtain ⟨found, get⟩ := run_get_held wired₂ (passes₂.leafFor leaf) held
  refine ⟨w', put, read, found, get, ?_⟩
  obtain ⟨shown, get', source⟩ := run_get_any wired₂ key w'
  rw [get] at get'
  cases shown with
  | none => cases get'
  | some value' =>
    cases get'
    obtain ⟨cell, leaf, held⟩ := source found rfl
    by_cases written : LeafFor key s₁ cell
    · rw [wrote.written cell written] at held
      exact .inl (Option.some.inj held).symm
    · rw [wrote.kept cell key fun both => written both.1] at held
      exact .inr ⟨cell, leaf, written, held⟩

end StoreGraph.Store
