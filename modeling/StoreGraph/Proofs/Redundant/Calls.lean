import StoreGraph.Proofs.Redundant.Keys

/-! # Every key once, call after call

The keys of a redundant store with an offloaded dedup, over any stores whose enumerations take a
course of their own. However the calls before have ended, the next one begins without marks
(`Called.unmarked`), so that it shows every key that any of the stores delivers, and each of them
once (`keys_shown_once`).
-/

namespace StoreGraph

open Storage

/-- A store together with the course that its enumerations take. -/
structure Charted (between : World → World → Prop) where
  storage : Storage
  course : World → Course
  follows : Follows between course storage

namespace Charted

variable {between : World → World → Prop} (refl : ∀ w, between w w)

def memory (cell : Ref .memory) : Charted between where
  storage := Storage.memory cell
  course := memoryCourse cell
  follows := follows_memory refl cell

/-- A probe that heeds its visitors. -/
def probe (trans : ∀ a b c, between a b → between b c → between a c) (cell : Ref .probe)
    (own : ∀ w f, between w { w with probes := w.probes.modify cell f }) : Charted between where
  storage := Storage.probe cell {}
  course := probeCourse cell
  follows := follows_probe own refl trans rfl

end Charted

/-- What stores deliver that are enumerated one after the other, until the visitor stops one. The
    visitor's second state is set back for each store. -/
def deliver {τ : Type} (visit : Bytes → VisitM (τ × Bool) Unit) :
    List (World → Course) → World × τ → List (Account (τ × Bool)) × (World × τ)
  | [], s => ([], s)
  | course :: rest, (w, t) =>
    let account := (course w).follow visit (t, false)
    let left := (account.stop.1, account.stop.2.1)
    match account.ending with
    | .stopped _ => ([account], left)
    | .finished _ =>
      let later := deliver visit rest left
      (account :: later.1, later.2)

section Deliveries

variable {τ : Type} {between : World → World → Prop} {visit : Bytes → VisitM (τ × Bool) Unit}

variable (visit) in
theorem sweeps_deliver (backs : List (Charted between)) (s : World × τ) :
    Sweeps between visit (backs.map (·.storage)) s (deliver visit (backs.map (·.course)) s).1
      (deliver visit (backs.map (·.course)) s).2 := by
  induction backs generalizing s with
  | nil => exact .done s
  | cons back rest ih =>
    obtain ⟨w, t⟩ := s
    have shows := (back.follows.quiet w).shows visit (t, false)
    have run := back.follows.run visit w (t, false)
    simp only [List.map_cons, deliver]
    unfold Account.result at run
    generalize (back.course w).follow visit (t, false) = account at shows run
    obtain ⟨keys, ending, stop⟩ := account
    cases ending with
    | stopped e => exact .halt shows run
    | finished outcome => exact .next shows run (ih _)

end Deliveries

/-- The worlds that calls for the keys of a store lead to, however each of them ended. Visitors, and
    what happens between the calls, leave the marks of the dedup alone. -/
inductive Called (cell : Ref .memory) (token : Ref .token) (s : Storage) : World → Prop where
  | start {w} (unmarked : Marked cell token [] w) : Called cell token s w
  | keys {w} {τ : Type} {visit : Bytes → VisitM τ Unit} {t : τ} (before : Called cell token s w)
      (apart : ∀ key, Leaves (SameMarks cell token) (visit key)) :
      Called cell token s (stateAfter (s.keys visit) (w, t)).1
  | elsewhere {w w'} (before : Called cell token s w) (same : SameMarks cell token w w') :
      Called cell token s w'

section Calls

variable {cell : Ref .memory} {token : Ref .token} {τ : Type} {visit : Bytes → VisitM τ Unit}
  {policy : ReplicaPolicy} {backs : List (Charted (SameMarks cell token))} {w : World}

/-- Nothing is said about what the redundant store does beside calling the visitor. -/
theorem unbounded : SweepBounds cell token (SameMarks cell token) fun _ _ => True where
  refl _ := trivial
  trans _ _ _ _ _ := trivial
  lift _ _ _ := trivial
  marks _ _ same := same
  mark _ _ := trivial
  tidied _ := trivial

/-- One call that begins without marks. -/
theorem keys_from_unmarked (unmarked : Marked cell token [] w)
    (apart : ∀ key, Leaves (SameMarks cell token) (visit key)) (policy : ReplicaPolicy)
    (backs : List (Charted (SameMarks cell token))) (t : τ) :
    let store := redundant policy (backs.map (·.storage)) (.offloaded token) (memory cell)
    let accounts :=
      (deliver (visitOnce (memory cell) (.offloaded token) visit) (backs.map (·.course)) (w, t)).1
    let ending := Ending.closing (Error.ofFailures (backFailures 0 accounts)) (haltedBy accounts)
    let after := stateAfter (store.keys visit) (w, t)
    (store.keys visit).run (w, t) = ending.result after ∧
      Shows (fun _ _ => True) visit (w, t) (accounts.flatMap (·.keys)).eraseDups ending after ∧
      after.1.entries cell = .empty ∧
      (haltedBy accounts = none → accounts.length = backs.length) := by
  intro store accounts ending after
  have swept := sweeps_deliver (visitOnce (memory cell) (.offloaded token) visit) backs (w, t)
  obtain ⟨run, shows⟩ := swept.run_keys unbounded apart unmarked policy
  have left : after = (_, _) := Ending.stateAfter_of_run run
  rw [left]
  refine ⟨run, shows, ?_, ?_⟩
  · rw [World.entries_tidied, if_pos rfl]
  · intro unhalted
    rw [swept.length_eq unhalted, List.length_map]

theorem Called.unmarked
    (reached : Called cell token
      (redundant policy (backs.map (·.storage)) (.offloaded token) (memory cell)) w) :
    Marked cell token [] w := by
  induction reached with
  | start unmarked => exact unmarked
  | keys before apart ih => exact .of_empty (keys_from_unmarked ih apart policy backs _).2.2.1
  | elsewhere before same ih => exact ih.same same

/-- Whatever calls have gone before, the visitor is called with every key that a store delivers,
    once for each key and in the order in which they are delivered first. A visitor's failure ends
    the call and is its result. Otherwise every store is enumerated, and the call fails exactly if
    one of the stores did, with the joined failures. No marks remain. -/
theorem keys_shown_once
    (reached : Called cell token
      (redundant policy (backs.map (·.storage)) (.offloaded token) (memory cell)) w)
    (apart : ∀ key, Leaves (SameMarks cell token) (visit key)) (t : τ) :
    let store := redundant policy (backs.map (·.storage)) (.offloaded token) (memory cell)
    let accounts :=
      (deliver (visitOnce (memory cell) (.offloaded token) visit) (backs.map (·.course)) (w, t)).1
    let ending := Ending.closing (Error.ofFailures (backFailures 0 accounts)) (haltedBy accounts)
    let after := stateAfter (store.keys visit) (w, t)
    (store.keys visit).run (w, t) = ending.result after ∧
      Shows (fun _ _ => True) visit (w, t) (accounts.flatMap (·.keys)).eraseDups ending after ∧
      ((∀ key s, ∃ s', (visit key).run s = .ok () s') → haltedBy accounts = none) ∧
      (haltedBy accounts = none → accounts.length = backs.length) ∧
      (ending = .finished (.ok ()) ↔ ∀ account ∈ accounts, account.ending = .finished (.ok ())) ∧
      after.1.entries cell = .empty := by
  intro store accounts ending after
  obtain ⟨run, shows, empty, all⟩ := keys_from_unmarked reached.unmarked apart policy backs t
  refine ⟨run, shows, ?_, all, closing_eq_ok_iff 0, empty⟩
  intro steady
  obtain ⟨outcome, finished⟩ := shows.finishes steady
  cases halted : haltedBy accounts with
  | none => rfl
  | some e =>
    rw [halted] at finished
    cases finished

/-- Three stores, the second of which fails before it has shown all its keys. -/
def oneFailing : List (Charted (SameMarks ⟨0⟩ ⟨0⟩)) :=
  [.memory .refl ⟨1⟩, .probe .refl (fun _ _ _ => .trans) ⟨0⟩ fun _ _ => ⟨rfl, rfl⟩,
    .memory .refl ⟨2⟩]

def oneFailingWorld : World :=
  let w : World := { randomness := fun _ => 0 }
  let w := w.changeMemory ⟨1⟩ fun m => (m.put [1] []).put [2] []
  let w := w.changeMemory ⟨2⟩ fun m => (m.put [2] []).put [5] []
  { w with
    probes := w.probes.set ⟨0⟩ {
      entries := ((SortedMap.empty.insert [2] []).insert [3] []).insert [4] []
      rules := [{ op := .visit, key := some [4], error := .backend "down" }] } }

def oneFailingStore : Storage :=
  redundant (.quorum .any) (oneFailing.map (·.storage)) (.offloaded ⟨0⟩) (memory ⟨0⟩)

/-- The world after a call that was stopped at its first key. -/
def stoppedWorld : World :=
  (stateAfter (oneFailingStore.keys fun _ => throw .notFound) (oneFailingWorld, ())).1

def collect (key : Bytes) : VisitM (List Bytes) Unit := VisitM.note (· ++ [key])

theorem keys_shown_once_after_stop :
    let after := stateAfter (oneFailingStore.keys collect) (stoppedWorld, [])
    Called ⟨0⟩ ⟨0⟩ oneFailingStore stoppedWorld ∧ after.2 = [[1], [2], [3], [5]] ∧
      (oneFailingStore.keys collect).run (stoppedWorld, []) =
        .error (.context "keys of storage 1" (.backend "down")) after ∧
      after.1.entries ⟨0⟩ = .empty := by
  intro after
  have reached : Called ⟨0⟩ ⟨0⟩ oneFailingStore stoppedWorld :=
    .keys (.start (.of_empty rfl)) fun key s => .refl s.1
  have apart : ∀ key, Leaves (SameMarks ⟨0⟩ ⟨0⟩) (collect key) := fun key s => .refl s.1
  obtain ⟨run, _, _, _, _, empty⟩ := keys_shown_once reached apart []
  have failures : backFailures 0 (deliver (visitOnce (memory ⟨0⟩) (.offloaded ⟨0⟩) collect)
      (oneFailing.map (·.course)) (stoppedWorld, [])).1 =
      [.context "keys of storage 1" (.backend "down")] := by rfl
  have unhalted : haltedBy (deliver (visitOnce (memory ⟨0⟩) (.offloaded ⟨0⟩) collect)
      (oneFailing.map (·.course)) (stoppedWorld, [])).1 = none := by rfl
  rw [failures, unhalted] at run
  exact ⟨reached, by rfl, run, empty⟩

end Calls

end StoreGraph
