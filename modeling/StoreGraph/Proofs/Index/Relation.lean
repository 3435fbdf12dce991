import StoreGraph.Proofs.Index.MultiValue

/-! # Multi-value indexes as ordered relations

After any run over a store that was empty at first, the changes that succeeded say which keys are
linked and since when. The index answers accordingly. Whatever change it is asked for next, the
change has its whole effect, or it fails and has none (`index_is_ordered_relation`).
-/

namespace StoreGraph.MultiValueIndex

/-- An index over a plain store was worked with. The history holds the changes that succeeded, the
    last one first. -/
inductive Ran (p : PlainStore) (start : World) : World → List LinkChange → Prop where
  | fresh : Ran p start start []
  | changed {w w' history change} (earlier : Ran p start w history)
      (run : (LinkChange.run ⟨p.store⟩ change).run w = .ok () w') :
      Ran p start w' (change :: history)
  | refused {w w' e history change} (earlier : Ran p start w history)
      (run : (LinkChange.run ⟨p.store⟩ change).run w = .error e w') : Ran p start w' history
  | found {w history} (earlier : Ran p start w history) (secondary : Bytes) :
      Ran p start (stateAfter (find ⟨p.store⟩ secondary) w) history
  /-- All pairs were shown to a visitor that leaves the store alone. -/
  | iterated {τ w history} {visit : Bytes → Bytes → VisitM τ Unit} {t : τ}
      (earlier : Ran p start w history)
      (visits : ∀ primary secondary, Leaves p.Spares (visit primary secondary)) :
      Ran p start (stateAfter (iterate ⟨p.store⟩ visit) (w, t)).1 history
  /-- Elsewhere things happened, or other calls are going to fail from now on. -/
  | meanwhile {w w' history} (earlier : Ran p start w history)
      (same : p.entries w' = p.entries w) (candid : p.Candid w') : Ran p start w' history

/-- The index answers with these lists. -/
structure Answers (p : PlainStore) (linked : Bytes → List Bytes) (w : World) : Prop where
  /-- Looking a secondary key up fails only as the call to the store does. -/
  find : ∀ s, (find ⟨p.store⟩ s).run w = match (p.store.find? s).run w with
    | .ok _ w' => .ok (linked s) w'
    | .error e w' => .error e w'
  stored : ∀ s, (p.entries w).contains s = true ↔ linked s ≠ []
  iterate : p.Faultless w → ∃ pairs, Tour linked pairs ∧
    ∀ {τ} (visit : Bytes → Bytes → VisitM τ Unit) (t : τ),
      (∀ primary secondary, Leaves p.Spares (visit primary secondary)) →
      InTurn p.Spares (fun pair => visit pair.1 pair.2) pairs (w, t)
        ((iterate ⟨p.store⟩ visit).run (w, t))

/-- What comes of asking for a change: it has its effect, or one of its calls fails and nothing
    changes. -/
inductive Attempt (p : PlainStore) (linked : Bytes → List Bytes) (now : World)
    (change : LinkChange) : Prop where
  | done {after} (run : (change.run ⟨p.store⟩).run now = .ok () after)
      (fine : p.store.firstFailure? now (change.calls (linked change.secondary)) = none)
      (answers : Answers p (change.apply linked) after)
      (others : ∀ s, s ≠ change.secondary → (p.entries after).get? s = (p.entries now).get? s)
      (idle : change.Idle (linked change.secondary) →
        change.apply linked = linked ∧ p.entries after = p.entries now)
  | failed {after e} (run : (change.run ⟨p.store⟩).run now = .error e after)
      (failure : p.store.firstFailure? now (change.calls (linked change.secondary)) = some e)
      (faulty : ¬ p.Faultless now)
      (same : p.entries after = p.entries now)
      (answers : Answers p linked after)

/-- The store holds the lists that the history says. -/
structure Tracks (p : PlainStore) (history : List LinkChange) (linked : Bytes → List Bytes)
    (w : World) : Prop where
  candid : p.Candid w
  listed : ∀ s, Listed history s (linked s)
  holds : Holds (p.entries w) linked

section Runs

variable {p : PlainStore} {history : List LinkChange} {linked : Bytes → List Bytes}
  {start w w' now : World} {change : LinkChange}

namespace Tracks

theorem fresh (candid : p.Candid w) (empty : p.entries w = .empty) :
    Tracks p [] (fun _ => []) w := by
  refine ⟨candid, Listed.nil, fun s => ?_⟩
  rw [empty]
  rfl

/-- The store was left alone. -/
theorem still (tracks : Tracks p history linked w) (candid : p.Candid w')
    (same : p.entries w' = p.entries w) : Tracks p history linked w' :=
  ⟨candid, tracks.listed, same ▸ tracks.holds⟩

theorem spares (tracks : Tracks p history linked w) (spares : p.Spares w w') :
    Tracks p history linked w' :=
  tracks.still (spares.candid tracks.candid) spares.entries

theorem revised (tracks : Tracks p history linked w) (steady : p.Steady w w')
    (written : p.entries w' = changed (p.entries w) change (linked change.secondary)) :
    Tracks p (change :: history) (change.apply linked) w' :=
  ⟨steady.candid tracks.candid, Listed.change tracks.listed change,
    written ▸ tracks.holds.change change⟩

theorem performs (tracks : Tracks p history linked w) (change : LinkChange) :
    Performs p (change.calls (linked change.secondary)) (change.run ⟨p.store⟩) w
      (changed (p.entries w) change (linked change.secondary)) :=
  performs_change tracks.candid change (tracks.holds _)

theorem answers (tracks : Tracks p history linked w) : Answers p linked w where
  find s := run_load tracks.candid (tracks.holds s)
  stored := contains_iff tracks.holds
  iterate faultless :=
    ⟨_, tour_keys tracks.holds fun s => (tracks.listed s).once, fun _ _ visits =>
      inTurn_iterate tracks.candid faultless tracks.holds visits⟩

theorem attempt (tracks : Tracks p history linked now) (change : LinkChange) :
    Attempt p linked now change := by
  cases tracks.performs change with
  | @done after steady written fine run =>
    refine .done run fine (tracks.revised steady written).answers ?_ ?_
    · intro s other
      rw [written, get?_changed_of_ne other]
    · intro idle
      exact ⟨LinkChange.apply_idle idle, written.trans (if_pos idle)⟩
  | failed spares faulty failure run =>
    exact .failed run failure faulty spares.entries (tracks.spares spares).answers

end Tracks

theorem Ran.tracks (candid : p.Candid start) (empty : p.entries start = .empty)
    (ran : Ran p start now history) : ∃ linked, Tracks p history linked now := by
  induction ran with
  | fresh => exact ⟨_, .fresh candid empty⟩
  | @changed w w' history change earlier run ih =>
    obtain ⟨linked, tracks⟩ := ih
    cases tracks.performs change with
    | done steady written fine run' =>
      cases run.symm.trans run'
      exact ⟨_, tracks.revised steady written⟩
    | failed spares faulty failure run' => cases run.symm.trans run'
  | @refused w w' e history change earlier run ih =>
    obtain ⟨linked, tracks⟩ := ih
    cases tracks.performs change with
    | done steady written fine run' => cases run.symm.trans run'
    | failed spares faulty failure run' =>
      cases run.symm.trans run'
      exact ⟨linked, tracks.spares spares⟩
  | found earlier secondary ih =>
    obtain ⟨linked, tracks⟩ := ih
    exact ⟨linked, tracks.spares (moves_load p secondary _)⟩
  | iterated earlier visits ih =>
    obtain ⟨linked, tracks⟩ := ih
    exact ⟨linked, tracks.spares (leaves_iterate visits (_, _))⟩
  | meanwhile earlier same candid ih =>
    obtain ⟨linked, tracks⟩ := ih
    exact ⟨linked, tracks.still candid same⟩

/-- After any run that began with an empty store, the index answers with the keys that its history
    says are linked, ordered by when they were. A change that is asked for then has its effect, or
    one of its calls fails and it has none. No read fails as "not found" (`PlainStore.Candid`), at
    first and whenever other calls are going to fail: to the index, this is the answer that nothing
    is linked to the key, and the next link would replace the list that the store still holds. -/
theorem index_is_ordered_relation (candid : p.Candid start) (empty : p.entries start = .empty)
    (ran : Ran p start now history) : ∃ linked : Bytes → List Bytes,
      (∀ s, Listed history s (linked s)) ∧ Answers p linked now ∧
        ∀ change, Attempt p linked now change := by
  obtain ⟨linked, tracks⟩ := ran.tracks candid empty
  exact ⟨linked, tracks.listed, tracks.answers, tracks.attempt⟩

/-! The third of five changes fails. Of the two keys that are linked in the end, the one that was
unlinked and linked again comes last. -/

/-- The world and the history after a further change is asked for. -/
def next (p : PlainStore) (state : World × List LinkChange) (change : LinkChange) :
    World × List LinkChange :=
  match (change.run ⟨p.store⟩).run state.1 with
  | .ok _ w => (w, change :: state.2)
  | .error _ w => (w, state.2)

/-- A run can go on with any changes. -/
theorem Ran.asked {state : World × List LinkChange} (ran : Ran p start state.1 state.2)
    (changes : List LinkChange) :
    Ran p start (changes.foldl (next p) state).1 (changes.foldl (next p) state).2 := by
  induction changes generalizing state with
  | nil => exact ran
  | cons change rest ih =>
    refine ih ?_
    rw [next]
    split
    case h_1 w run => exact ran.changed run
    case h_2 e w run => exact ran.refused run

/-- The third call that writes a list fails. -/
def thirdFails : World :=
  World.ruled { randomness := fun _ => 0 } ⟨0⟩
    [{ op := .put, error := .backend "io", skip := 2, times := some 1 }]

/-- The world and the history after five changes. -/
def reordered : World × List LinkChange :=
  [.link [1] [9], .link [2] [9], .link [3] [9], .unlink [1] [9], .link [1] [9]].foldl
    (next (.probe ⟨0⟩ {})) (thirdFails, [])

theorem relinked_key_comes_last :
    (PlainStore.probe ⟨0⟩ {}).Candid thirdFails ∧
      (PlainStore.probe ⟨0⟩ {}).entries thirdFails = .empty ∧
      Ran (.probe ⟨0⟩ {}) thirdFails reordered.1 reordered.2 ∧
      reordered.2 = [.link [1] [9], .unlink [1] [9], .link [2] [9], .link [1] [9]] ∧
      ∃ linked : Bytes → List Bytes, linked [9] = [[2], [1]] ∧
        (∀ s, Listed reordered.2 s (linked s)) ∧ Answers (.probe ⟨0⟩ {}) linked reordered.1 ∧
        ∀ change, Attempt (.probe ⟨0⟩ {}) linked reordered.1 change := by
  have candid : (PlainStore.probe ⟨0⟩ {}).Candid thirdFails := by
    simp [PlainStore.Candid, thirdFails, FaultRule.Candid]
  have ran : Ran (.probe ⟨0⟩ {}) thirdFails reordered.1 reordered.2 := Ran.fresh.asked _
  have history : reordered.2 = [.link [1] [9], .unlink [1] [9], .link [2] [9], .link [1] [9]] := by
    decide +kernel
  have said : Listed reordered.2 [9] [[2], [1]] := by
    rw [history]
    exact ((((Listed.nil [9]).link [1]).link [2]).unlink [1]).link [1]
  obtain ⟨linked, listed, answers, attempts⟩ := index_is_ordered_relation candid rfl ran
  exact ⟨candid, rfl, ran, history, linked, (listed [9]).unique said, listed, answers, attempts⟩

end Runs

end StoreGraph.MultiValueIndex
