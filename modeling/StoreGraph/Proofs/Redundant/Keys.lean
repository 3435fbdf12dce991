import StoreGraph.Proofs.Redundant.Marks

/-! # Enumerations over several stores

A redundant store enumerates the stores below it one after the other (`Sweeps`), with a visitor that
passes over keys that are marked. What is marked is what was shown before, so every key is shown
once, where it is delivered first; the failures of the stores are gathered on the way.
-/

namespace StoreGraph

open Storage

/-- What is known about changes of the world while the keys of a redundant store are shown: `below`
    bounds what the stores below do on their own, `between` what the redundant store does. -/
structure SweepBounds (cell : Ref .memory) (token : Ref .token)
    (below between : World → World → Prop) : Prop where
  refl : ∀ w, between w w
  trans : ∀ a b c, between a b → between b c → between a c
  lift : ∀ w w', below w w' → between w w'
  marks : ∀ w w', below w w' → SameMarks cell token w w'
  mark : ∀ w key, between w (w.mark cell token key)
  tidied : ∀ w, between w (w.tidied cell token)

section Once

variable {cell : Ref .memory} {token : Ref .token} {below between : World → World → Prop}
  {τ : Type} {visit : Bytes → VisitM τ Unit} {shown keys : List Bytes}

theorem eraseDups_removeAll_of_mem {key : Bytes} (old : key ∈ shown) (rest : List Bytes) :
    ((key :: rest).removeAll shown).eraseDups = (rest.removeAll shown).eraseDups := by
  rw [List.cons_removeAll, if_neg (by simpa using old)]

theorem eraseDups_removeAll_of_not_mem {key : Bytes} (new : key ∉ shown) (rest : List Bytes) :
    ((key :: rest).removeAll shown).eraseDups =
      key :: (rest.removeAll (key :: shown)).eraseDups := by
  rw [List.cons_removeAll, if_pos (by simpa using new), List.eraseDups_cons, List.removeAll_cons]
  simp only [List.removeAll, List.filter_filter, Bool.and_comm]

/-- While a store below shows its keys, the visitor is called for those that are new. -/
theorem Shows.once (bounds : SweepBounds cell token below between)
    (apart : ∀ key, Leaves (SameMarks cell token) (visit key)) {w : World} {t : τ} {ending : Ending}
    {stop : World × τ × Bool} (marked : Marked cell token shown w)
    (course : Shows below (visitOnce (memory cell) (.offloaded token) visit) (w, t, false) keys
      ending stop) :
    Shows between visit (w, t) (keys.removeAll shown).eraseDups ending (stop.1, stop.2.1) ∧
      stop.2.2 = ending.stoppedWith?.isSome ∧ Marked cell token (shown ++ keys) stop.1 := by
  generalize begins : (w, t, false) = start at course
  induction course generalizing w t shown with
  | finish outcome quiet =>
    cases begins
    rw [List.append_nil]
    exact ⟨.finish outcome (bounds.lift _ _ quiet), rfl, marked.same (bounds.marks _ _ quiet)⟩
  | @shown w w₁ t key s keys ending stop quiet call rest ih =>
    cases begins
    have before := marked.same (bounds.marks _ _ quiet)
    by_cases old : key ∈ shown
    · rw [run_visitOnce_of_marked ((before key).mpr old)] at call
      cases call
      obtain ⟨further, flag, marked'⟩ := ih before rfl
      rw [eraseDups_removeAll_of_mem old]
      refine ⟨further.prepend bounds.trans (bounds.lift _ _ quiet), flag, marked'.congr ?_⟩
      intro other
      simp only [List.mem_append, List.mem_cons]
      grind
    · rw [run_visitOnce_of_unmarked (mt (before key).mp old)] at call
      cases called : (visit key).run (w₁.mark cell token key, t) with
      | error e s' =>
        rw [called] at call
        cases call
      | ok _ s' =>
        rw [called] at call
        cases call
        have left := apart key (w₁.mark cell token key, t)
        rw [stateAfter, called] at left
        obtain ⟨further, flag, marked'⟩ := ih ((before.mark key).same left) rfl
        rw [eraseDups_removeAll_of_not_mem old]
        have first := bounds.trans _ _ _ (bounds.lift _ _ quiet) (bounds.mark _ key)
        exact ⟨.shown first called further, flag,
          marked'.congr fun _ => List.perm_middle.symm.mem_iff⟩
  | @stop w w₁ w₂ w₃ t t' key e quiet call after =>
    cases begins
    have before := marked.same (bounds.marks _ _ quiet)
    by_cases old : key ∈ shown
    · rw [run_visitOnce_of_marked ((before key).mpr old)] at call
      cases call
    · rw [run_visitOnce_of_unmarked (mt (before key).mp old)] at call
      cases called : (visit key).run (w₁.mark cell token key, t) with
      | ok _ s' =>
        rw [called] at call
        cases call
      | error e' s' =>
        rw [called] at call
        cases call
        have left := apart key (w₁.mark cell token key, t)
        rw [stateAfter, called] at left
        rw [eraseDups_removeAll_of_not_mem old]
        have first := bounds.trans _ _ _ (bounds.lift _ _ quiet) (bounds.mark _ key)
        have marked' := ((before.mark key).same left).same (bounds.marks _ _ after)
        exact ⟨.stop first called (bounds.lift _ _ after), rfl,
          marked'.congr fun _ => (List.perm_append_singleton key shown).symm.mem_iff⟩

end Once

/-- The stores below are enumerated one after the other, each from the state in which the one before
    left the visitor, until the visitor stops one of them. -/
inductive Sweeps {τ : Type} (below : World → World → Prop)
    (visit : Bytes → VisitM (τ × Bool) Unit) :
    List Storage → World × τ → List (Account (τ × Bool)) → World × τ → Prop where
  | done (s) : Sweeps below visit [] s [] s
  | next {back rest w t keys outcome stop later final}
      (course : Shows below visit (w, t, false) keys (.finished outcome) stop)
      (run : (back.keys visit).run (w, t, false) = (Ending.finished outcome).result stop)
      (further : Sweeps below visit rest (stop.1, stop.2.1) later final) :
      Sweeps below visit (back :: rest) (w, t) (⟨keys, .finished outcome, stop⟩ :: later) final
  | halt {back rest w t keys e stop}
      (course : Shows below visit (w, t, false) keys (.stopped e) stop)
      (run : (back.keys visit).run (w, t, false) = (Ending.stopped e).result stop) :
      Sweeps below visit (back :: rest) (w, t) [⟨keys, .stopped e, stop⟩] (stop.1, stop.2.1)

/-- The failure with which the visitor stopped one of several enumerations, if it did. -/
def haltedBy {υ : Type} (accounts : List (Account υ)) : Option Error :=
  accounts.findSome? (·.ending.stoppedWith?)

/-- What the stores failed with on their own, each failure under the position of its store; the
    first store has the position `start`. -/
def backFailures {υ : Type} (start : Nat) (accounts : List (Account υ)) : List Error :=
  (accounts.zipIdx start).filterMap fun (account, index) =>
    match account.ending with
    | .finished (.error e) => some (.context s!"keys of storage {index}" e)
    | _ => none

section Sweep

variable {cell : Ref .memory} {token : Ref .token} {below between : World → World → Prop}
  {τ : Type} {visit : Bytes → VisitM τ Unit} {shown : List Bytes} {backs : List Storage}
  {s final : World × τ} {accounts : List (Account (τ × Bool))}

theorem removeAll_append (keys later : List Bytes) :
    ((keys ++ later).removeAll shown).eraseDups =
      (keys.removeAll shown).eraseDups ++ (later.removeAll (shown ++ keys)).eraseDups := by
  simp only [List.removeAll, List.filter_append]
  rw [List.eraseDups_append]
  congr 2
  simp only [List.removeAll, List.filter_filter]
  apply List.filter_congr
  intro key _
  simp
  grind

theorem backFailures_cons {υ : Type} (start : Nat) (account : Account υ)
    (later : List (Account υ)) :
    backFailures start (account :: later) = (match account.ending with
      | .finished (.error e) => [.context s!"keys of storage {start}" e]
      | _ => []) ++ backFailures (start + 1) later := by
  obtain ⟨keys, ending, stop⟩ := account
  cases ending with
  | stopped e => rfl
  | finished outcome => cases outcome <;> rfl

theorem backFailures_eq_nil_iff {υ : Type} {accounts : List (Account υ)} (start : Nat) :
    haltedBy accounts = none ∧ backFailures start accounts = [] ↔
      ∀ account ∈ accounts, account.ending = .finished (.ok ()) := by
  induction accounts generalizing start with
  | nil => simp [haltedBy, backFailures]
  | cons account later ih =>
    rw [List.forall_mem_cons, ← ih (start + 1), backFailures_cons]
    obtain ⟨keys, ending, stop⟩ := account
    cases ending with
    | stopped e => simp [haltedBy, Ending.stoppedWith?]
    | finished outcome => cases outcome <;> simp [haltedBy, Ending.stoppedWith?]

/-- An enumeration over several stores ends well exactly if each of them ends well. -/
theorem closing_eq_ok_iff {υ : Type} {accounts : List (Account υ)} (start : Nat) :
    Ending.closing (Error.ofFailures (backFailures start accounts)) (haltedBy accounts) =
        .finished (.ok ()) ↔ ∀ account ∈ accounts, account.ending = .finished (.ok ()) := by
  rw [← backFailures_eq_nil_iff start, ← Error.join?_eq_none_iff]
  unfold Error.ofFailures
  cases haltedBy accounts with
  | some e => simp [Ending.closing]
  | none => cases Error.join? (backFailures start accounts) <;> simp [Ending.closing]

/-- Over all stores together the visitor is called for the keys that are new, in the order in which
    they were delivered first. The failures of the stores are gathered on the way. -/
theorem Sweeps.once (bounds : SweepBounds cell token below between)
    (apart : ∀ key, Leaves (SameMarks cell token) (visit key))
    (swept : Sweeps below (visitOnce (memory cell) (.offloaded token) visit) backs s accounts final)
    (marked : Marked cell token shown s.1) (start : Nat) (outcome : Except Error Unit) :
    (sweep (memory cell) (.offloaded token) visit
        ((backs.zipIdx start).map fun (back, index) => (s!"keys of storage {index}", back))).run s =
        .ok ⟨haltedBy accounts, backFailures start accounts⟩ final ∧
      Shows between visit s ((accounts.flatMap (·.keys)).removeAll shown).eraseDups
        (.closing outcome (haltedBy accounts)) final := by
  induction swept generalizing shown start with
  | done s => exact ⟨rfl, .finish outcome (bounds.refl s.1)⟩
  | @next back rest w t keys how stop later final course run further ih =>
    obtain ⟨first, flag, marked'⟩ := course.once bounds apart marked
    obtain ⟨run', shows'⟩ := ih marked' (start + 1)
    constructor
    · simp only [List.zipIdx_cons, List.map_cons, sweep, EStateM.run_bind, VisitM.run_withState,
        run, haltedBy, List.findSome?_cons, Ending.stoppedWith?]
      rw [backFailures_cons]
      cases how with
      | ok _ =>
        simp only [Ending.result, flag, Ending.stoppedWith?, Option.isSome_none, run']
        rfl
      | error e =>
        simp only [Ending.result, flag, Ending.stoppedWith?, Option.isSome_none, EStateM.run_bind,
          run', EStateM.run_pure]
        rfl
    · rw [List.flatMap_cons, removeAll_append]
      exact first.append bounds.trans shows'
  | @halt back rest w t keys e stop course run =>
    obtain ⟨first, flag, marked'⟩ := course.once bounds apart marked
    constructor
    · simp only [List.zipIdx_cons, List.map_cons, sweep, EStateM.run_bind, VisitM.run_withState,
        run, Ending.result, flag, Ending.stoppedWith?, Option.isSome_some, EStateM.run_pure]
      rfl
    · simpa [haltedBy, Ending.stoppedWith?, Ending.closing] using first

/-- Unless the visitor stops one of them, all stores are enumerated. -/
theorem Sweeps.length_eq {visit : Bytes → VisitM (τ × Bool) Unit}
    (swept : Sweeps below visit backs s accounts final) (unhalted : haltedBy accounts = none) :
    accounts.length = backs.length := by
  induction swept with
  | done s => rfl
  | next course run further ih => exact congrArg (· + 1) (ih unhalted)
  | halt course run => cases unhalted

/-- An enumeration of a redundant store that begins without marks. -/
theorem Sweeps.run_keys (bounds : SweepBounds cell token below between)
    (apart : ∀ key, Leaves (SameMarks cell token) (visit key))
    (swept : Sweeps below (visitOnce (memory cell) (.offloaded token) visit) backs s accounts final)
    (unmarked : Marked cell token [] s.1) (policy : ReplicaPolicy) :
    let ending := Ending.closing (Error.ofFailures (backFailures 0 accounts)) (haltedBy accounts)
    ((redundant policy backs (.offloaded token) (memory cell)).keys visit).run s =
        ending.result (final.1.tidied cell token, final.2) ∧
      Shows between visit s (accounts.flatMap (·.keys)).eraseDups ending
        (final.1.tidied cell token, final.2) := by
  intro ending
  obtain ⟨w', t'⟩ := final
  obtain ⟨run, shows⟩ := swept.once bounds apart unmarked 0
    (Error.ofFailures (backFailures 0 accounts))
  rw [List.removeAll_nil] at shows
  refine ⟨?_, shows.extend bounds.trans (bounds.tidied w')⟩
  have cleared : ∀ w, (gatherFailures [("clear iteration dedup",
      DedupScheme.clear (memory cell) (.offloaded token))]).run w =
      .ok [] (w.changeMemory cell (·.clear)) := by
    intro w
    simp only [gatherFailures, EStateM.run_bind, run_attempt, run_clear, EStateM.run_pure]
  have named : numbered "keys of storage" backs =
      backs.zipIdx.map fun (back, index) => (s!"keys of storage {index}", back) := rfl
  simp only [redundant, named, EStateM.run_bind]
  rw [run]
  simp only [StoreM.run_visiting, cleared, run_reset, List.append_nil, World.tidied, ending]
  cases haltedBy accounts with
  | some e => rfl
  | none =>
    simp only [Ending.closing]
    cases Error.ofFailures (backFailures 0 accounts) with
    | ok _ => rfl
    | error e => rfl

end Sweep

end StoreGraph
