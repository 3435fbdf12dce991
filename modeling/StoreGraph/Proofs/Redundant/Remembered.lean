import StoreGraph.Proofs.Dedup.Session
import StoreGraph.Proofs.Redundant.Calls

/-! # Keys of a redundant store with a naive dedup

A naive dedup forgets nothing between two enumerations: what it remembers, it carries over to the
next one. Over in-memory copies a call for the keys therefore shows those that are not remembered
when they come up, and no others (`keys_shown_unless_remembered`). The first call shows every key.
As long as the keys are fewer than the dedup keeps, it shows each of them once, and every call after
it shows none.
-/

namespace StoreGraph

open Storage

namespace KeepLimits

variable (limits : KeepLimits)

/-- The keys of a list that are not remembered when they come up, and so are remembered anew. -/
def news : List Bytes → List Bytes → List Bytes
  | _, [] => []
  | known, key :: rest =>
    if key ∈ known then news known rest else key :: news (limits.remember known key) rest

/-- The keys that are remembered after a list. -/
def rememberAll : List Bytes → List Bytes → List Bytes
  | known, [] => known
  | known, key :: rest =>
    if key ∈ known then rememberAll known rest else rememberAll (limits.remember known key) rest

/-- The keys that are remembered after a list came up so many times. -/
def rounds (keys : List Bytes) : Nat → List Bytes
  | 0 => []
  | n + 1 => limits.rememberAll (rounds keys n) keys

variable {limits} {known keys later : List Bytes}

theorem rememberAll_append (known keys later : List Bytes) :
    limits.rememberAll known (keys ++ later) =
      limits.rememberAll (limits.rememberAll known keys) later := by
  induction keys generalizing known with
  | nil => rfl
  | cons key rest ih =>
    rw [List.cons_append, rememberAll, rememberAll]
    split
    · exact ih known
    · exact ih _

theorem eq_or_mem_of_mem_remember {key other : Bytes} (member : other ∈ limits.remember known key) :
    other = key ∨ other ∈ known := by
  have moved : other ∈ known.filter (· ≠ key) ++ [key] := by
    rw [remember] at member
    split at member
    · exact List.mem_of_mem_drop member
    · exact member
  obtain kept | new := List.mem_append.mp moved
  · exact .inr (List.mem_of_mem_filter kept)
  · exact .inl (List.mem_singleton.mp new)

/-- A key that comes up is new or was known before. -/
theorem mem_news_or_mem {key : Bytes} (member : key ∈ keys) :
    key ∈ limits.news known keys ∨ key ∈ known := by
  induction keys generalizing known with
  | nil => cases member
  | cons first rest ih =>
    rw [news]
    by_cases old : first ∈ known
    · rw [if_pos old]
      cases member with
      | head => exact .inr old
      | tail _ member => exact ih member
    · rw [if_neg old]
      cases member with
      | head => exact .inl List.mem_cons_self
      | tail _ member =>
        have later : key ∈ limits.news (limits.remember known first) rest ∨
            key ∈ limits.remember known first := ih member
        obtain new | remembered := later
        · exact .inl (List.mem_cons_of_mem _ new)
        · obtain rfl | kept := eq_or_mem_of_mem_remember remembered
          · exact .inl List.mem_cons_self
          · exact .inr kept

/-- Keys that are all known change nothing. -/
theorem news_of_known (all : ∀ key ∈ keys, key ∈ known) :
    limits.news known keys = [] ∧ limits.rememberAll known keys = known := by
  induction keys with
  | nil => exact ⟨rfl, rfl⟩
  | cons key rest ih =>
    rw [news, rememberAll, if_pos (all key List.mem_cons_self), if_pos (all key List.mem_cons_self)]
    exact ih fun key member => all key (List.mem_cons_of_mem _ member)

/-- As long as nothing is dropped, each key is new once. -/
theorem news_of_few
    (few : known.length + (keys.removeAll known).eraseDups.length < limits.threshold) :
    limits.news known keys = (keys.removeAll known).eraseDups ∧
      limits.rememberAll known keys = known ++ (keys.removeAll known).eraseDups := by
  induction keys generalizing known with
  | nil => exact ⟨rfl, (List.append_nil known).symm⟩
  | cons key rest ih =>
    rw [news, rememberAll]
    by_cases old : key ∈ known
    · rw [eraseDups_removeAll_of_mem old] at few ⊢
      rw [if_pos old, if_pos old]
      exact ih few
    · rw [eraseDups_removeAll_of_not_mem old] at few ⊢
      rw [if_neg old, if_neg old]
      have apart : known.filter (· ≠ key) = known :=
        List.filter_eq_self.mpr fun other member =>
          decide_eq_true fun same => old (same ▸ member)
      rw [List.length_cons] at few
      -- The key is not known and nothing is dropped, so it just goes to the end.
      have remembered : limits.remember known key = known ++ [key] := by
        rw [remember, apart, if_neg]
        rw [List.length_append, List.length_singleton]
        omega
      have left : rest.removeAll (known ++ [key]) = rest.removeAll (key :: known) := by
        simp only [List.removeAll]
        refine List.filter_congr fun other _ => ?_
        simp [or_comm]
      have few' : (known ++ [key]).length + (rest.removeAll (known ++ [key])).eraseDups.length <
          limits.threshold := by
        rw [left, List.length_append, List.length_singleton]
        omega
      obtain ⟨shown, known'⟩ := ih few'
      rw [remembered, shown, known', left, List.append_assoc, List.singleton_append]
      exact ⟨rfl, rfl⟩

/-- With fewer keys than are ever dropped, all are new the first time, and none is later. -/
theorem news_rounds_of_few (few : keys.eraseDups.length < limits.threshold) (n : Nat) :
    limits.news (limits.rounds keys n) keys = if n = 0 then keys.eraseDups else [] := by
  have few' :
      ([] : List Bytes).length + (keys.removeAll []).eraseDups.length < limits.threshold := by
    rwa [List.removeAll_nil, List.length_nil, Nat.zero_add]
  obtain ⟨first, known⟩ := news_of_few few'
  rw [List.removeAll_nil] at first
  rw [List.removeAll_nil, List.nil_append] at known
  have all : ∀ key ∈ keys, key ∈ keys.eraseDups := fun key member => List.mem_eraseDups.mpr member
  have settled : ∀ n, limits.rounds keys (n + 1) = keys.eraseDups := by
    intro n
    induction n with
    | zero => exact known
    | succ n ih => rw [rounds, ih, (news_of_known all).2]
  cases n with
  | zero => exact first
  | succ n => rw [settled, (news_of_known all).1, if_neg (Nat.succ_ne_zero n)]

end KeepLimits

/-! ## Runs -/

/-- Some memory cells hold what they held, and so does the cell of some ages. -/
structure SameCells (cells : List (Ref .memory)) (ages : Ref .ages) (w w' : World) : Prop where
  entries : ∀ cell ∈ cells, w'.entries cell = w.entries cell
  known : w'.ages.get ages = w.ages.get ages

/-- The keys that the copies hold, copy after copy. -/
def keysHeld (backs : List (Ref .memory)) (w : World) : List Bytes :=
  backs.flatMap fun cell => (w.entries cell).keys

/-- The keys of a list come up one after the other. Those that are not known are remembered and
    shown to a visitor, until it fails. -/
inductive Recalls {τ : Type} (limits : KeepLimits) (visit : Bytes → VisitM τ Unit) :
    List Bytes → List Bytes → World × τ → Option Error → World × τ → Prop where
  | done {known s} : Recalls limits visit known [] s none s
  | old {known key rest s stopped s'} (old : key ∈ known)
      (later : Recalls limits visit known rest s stopped s') :
      Recalls limits visit known (key :: rest) s stopped s'
  | new {known key rest w w₁ t s stopped s'} (new : key ∉ known)
      (called : (visit key).run (w₁, t) = .ok () s)
      (later : Recalls limits visit (limits.remember known key) rest s stopped s') :
      Recalls limits visit known (key :: rest) (w, t) stopped s'
  | stop {known key rest w w₁ t e s} (new : key ∉ known)
      (called : (visit key).run (w₁, t) = .error e s) :
      Recalls limits visit known (key :: rest) (w, t) (some e) s

namespace Recalls

variable {τ : Type} {limits : KeepLimits} {visit : Bytes → VisitM τ Unit}
  {known keys later : List Bytes} {s s₁ s' : World × τ} {stopped : Option Error}

theorem append (first : Recalls limits visit known keys s none s₁)
    (second : Recalls limits visit (limits.rememberAll known keys) later s₁ stopped s') :
    Recalls limits visit known (keys ++ later) s stopped s' := by
  generalize ended : (none : Option Error) = unstopped at first
  induction first with
  | done => exact second
  | old old _ ih =>
    rw [KeepLimits.rememberAll, if_pos old] at second
    exact .old old (ih second ended)
  | new new called _ ih =>
    rw [KeepLimits.rememberAll, if_neg new] at second
    exact .new new called (ih second ended)
  | stop new called => cases ended

theorem stopped_append {e : Error} (first : Recalls limits visit known keys s (some e) s')
    (later : List Bytes) : Recalls limits visit known (keys ++ later) s (some e) s' := by
  generalize ended : some e = stopped at first
  induction first with
  | done => cases ended
  | old old _ ih => exact .old old (ih ended)
  | new new called _ ih => exact .new new called (ih ended)
  | stop new called => exact .stop new called

/-- The visitor is called with the keys that are new, or with the first ones of them. -/
theorem shows (recalls : Recalls limits visit known keys s stopped s') :
    ∃ shown, Shows (fun _ _ => True) visit s shown (.closing (.ok ()) stopped) s' ∧
      shown <+: limits.news known keys ∧ (stopped = none → shown = limits.news known keys) := by
  induction recalls with
  | @done known s => exact ⟨[], .finish _ trivial, List.prefix_rfl, fun _ => rfl⟩
  | old old _ ih =>
    rw [KeepLimits.news, if_pos old]
    exact ih
  | @new known key rest w w₁ t s stopped s' new called _ ih =>
    obtain ⟨shown, shows, part, whole⟩ := ih
    rw [KeepLimits.news, if_neg new]
    exact ⟨key :: shown, .shown trivial called shows, (List.prefix_cons_inj key).mpr part,
      fun ended => congrArg (key :: ·) (whole ended)⟩
  | @stop known key rest w w₁ t e s new called =>
    rw [KeepLimits.news, if_neg new]
    exact ⟨[key], .stop trivial called trivial, List.prefix_append [key] _, nofun⟩

end Recalls

/-- The dedup remembers the given keys, after so many saves at most, and the copies hold what they
    held. -/
structure Held (scratch : Ref .memory) (backs : List (Ref .memory)) (ages : Ref .ages)
    (known : List Bytes) (saves : Nat) (w w' : World) : Prop where
  live : Live scratch ages w'
  list : order (w'.entries scratch) = known
  backs : ∀ cell ∈ backs, w'.entries cell = w.entries cell
  numbers : newest (w'.entries scratch) ≤ newest (w.entries scratch) + saves

section Calls

variable {τ : Type} {limits : KeepLimits} {visit : Bytes → VisitM τ Unit} {scratch : Ref .memory}
  {backs : List (Ref .memory)} {ages : Ref .ages} {w w₁ w' : World} {known later : List Bytes}
  {m n : Nat}

theorem Held.trans (first : Held scratch backs ages known m w w₁)
    (second : Held scratch backs ages later n w₁ w') :
    Held scratch backs ages later (m + n) w w' where
  live := second.live
  list := second.list
  backs cell listed := (second.backs cell listed).trans (first.backs cell listed)
  numbers := by
    have below := second.numbers
    have before := first.numbers
    omega

theorem Held.same (held : Held scratch backs ages known n w w₁)
    (same : SameCells (scratch :: backs) ages w₁ w') : Held scratch backs ages known n w w' := by
  have own := same.entries scratch List.mem_cons_self
  refine ⟨held.live.congr own same.known, ?_, fun cell listed => ?_, ?_⟩
  · rw [own, held.list]
  · rw [same.entries cell (List.mem_cons_of_mem _ listed), held.backs cell listed]
  · rw [own]
    exact held.numbers

theorem Held.keysHeld (held : Held scratch backs ages known n w w') {some : List (Ref .memory)}
    (among : ∀ cell ∈ some, cell ∈ backs) : keysHeld some w' = keysHeld some w :=
  List.flatMap_congr fun cell listed => by rw [held.backs cell (among cell listed)]

/-- Saving a key in a store of its own takes one number. -/
theorem held_save (own : scratch ∉ backs) (positive : 0 < limits.maxKeys)
    (live : Live scratch ages w) (room : newest (w.entries scratch) + 1 < UInt64.size - 1)
    (key : Bytes) :
    ∃ w', (DedupScheme.save (memory scratch) key (.naive ages limits)).run w = .ok () w' ∧
      Held scratch backs ages (limits.remember (order (w.entries scratch)) key) 1 w w' := by
  obtain ⟨w', run, saved, live', others⟩ := DedupScheme.run_save live positive room key
  refine ⟨w', run, live', ?_, fun cell listed => others cell fun same => own (same ▸ listed), ?_⟩
  · rw [saved, order_savedIn (by omega)]
  · rw [saved, newest_savedIn positive (by omega)]

section Sweep

variable (limits) (own : scratch ∉ backs) (positive : 0 < limits.maxKeys)
  (apart : ∀ key, Leaves (SameCells (scratch :: backs) ages) (visit key))

include own positive apart

/-- The keys of one copy. -/
theorem run_forM_recalls (keys : List Bytes) (live : Live scratch ages w)
    (room : newest (w.entries scratch) + keys.length < UInt64.size - 1) (t : τ) :
    ∃ stopped w' t', Recalls limits visit (order (w.entries scratch)) keys (w, t) stopped (w', t') ∧
      (keys.forM (visitOnce (memory scratch) (.naive ages limits) visit)).run (w, t, false) =
        (Ending.closing (.ok ()) stopped).result (w', t', stopped.isSome) ∧
      (stopped = none → Held scratch backs ages
        (limits.rememberAll (order (w.entries scratch)) keys) keys.length w w') := by
  induction keys generalizing w t with
  | nil =>
    exact ⟨none, w, t, .done, rfl, fun _ => ⟨live, rfl, fun _ _ => rfl, Nat.le_refl _⟩⟩
  | cons key rest ih =>
    rw [List.length_cons] at room
    have asked : (DedupScheme.isSaved (memory scratch) key (.naive ages limits)).run w = _ :=
      DedupScheme.run_isSaved key w
    rw [contains_iff_mem_order] at asked
    have once := run_visitOnce (memory scratch) (.naive ages limits) visit key w t false
    rw [asked] at once
    by_cases old : key ∈ order (w.entries scratch)
    · rw [decide_eq_true old] at once
      obtain ⟨stopped, w', t', recalls, run, held⟩ := ih live (by omega) t
      refine ⟨stopped, w', t', .old old recalls, ?_, fun unstopped => ?_⟩
      · simp only [List.forM, EStateM.run_bind, once]
        exact run
      · rw [KeepLimits.rememberAll, if_pos old]
        have held := held unstopped
        exact ⟨held.live, held.list, held.backs, by
          have below := held.numbers
          rw [List.length_cons]
          omega⟩
    · obtain ⟨w₁, saved, first⟩ := held_save own positive live (by omega) key
      rw [decide_eq_false old] at once
      simp only [saved] at once
      cases called : (visit key).run (w₁, t) with
      | error e s =>
        rw [called] at once
        refine ⟨some e, s.1, s.2, .stop old called, ?_,
          fun none => absurd none (Option.some_ne_none e)⟩
        simp only [List.forM, EStateM.run_bind, once]
        rfl
      | ok _ s =>
        rw [called] at once
        have first := first.same ((apart key).of_ok called)
        have numbers := first.numbers
        obtain ⟨stopped, w', t', recalls, run, held⟩ := ih first.live (by omega) s.2
        rw [first.list] at recalls held
        refine ⟨stopped, w', t', .new old called recalls, ?_, fun unstopped => ?_⟩
        · simp only [List.forM, EStateM.run_bind, once]
          exact run
        · rw [KeepLimits.rememberAll, if_neg old, List.length_cons, Nat.add_comm]
          exact first.trans (held unstopped)

/-- The keys of some copies, one copy after the other. -/
theorem run_sweep_recalls (some : List (Ref .memory)) (among : ∀ cell ∈ some, cell ∈ backs)
    (live : Live scratch ages w)
    (room : newest (w.entries scratch) + (keysHeld some w).length < UInt64.size - 1) (t : τ)
    (start : Nat) :
    ∃ stopped w' t', Recalls limits visit (order (w.entries scratch)) (keysHeld some w) (w, t)
        stopped (w', t') ∧
      (sweep (memory scratch) (.naive ages limits) visit (((some.map Storage.memory).zipIdx
        start).map fun (back, index) => (s!"keys of storage {index}", back))).run (w, t) =
        .ok ⟨stopped, []⟩ (w', t') ∧
      (stopped = none → Held scratch backs ages
        (limits.rememberAll (order (w.entries scratch)) (keysHeld some w))
        (keysHeld some w).length w w') := by
  induction some generalizing w t start with
  | nil =>
    exact ⟨none, w, t, .done, rfl, fun _ => ⟨live, rfl, fun _ _ => rfl, Nat.le_refl _⟩⟩
  | cons cell rest ih =>
    have split : keysHeld (cell :: rest) w = (w.entries cell).keys ++ keysHeld rest w :=
      List.flatMap_cons
    rw [split, List.length_append] at room
    obtain ⟨stopped, w₁, t₁, recalls, run, held⟩ :=
      run_forM_recalls limits own positive apart (w.entries cell).keys live (by omega) t
    have listed : ((Storage.memory cell).keys
        (visitOnce (memory scratch) (.naive ages limits) visit)).run (w, t, false) =
        (Ending.closing (.ok ()) stopped).result (w₁, t₁, stopped.isSome) := run
    rw [split]
    cases stopped with
    | some e =>
      refine ⟨some e, w₁, t₁, recalls.stopped_append _, ?_, nofun⟩
      simp only [List.map_cons, List.zipIdx_cons, sweep, EStateM.run_bind, VisitM.run_withState,
        listed]
      rfl
    | none =>
      have held := held rfl
      have same := held.keysHeld fun cell listed => among cell (List.mem_cons_of_mem _ listed)
      have numbers := held.numbers
      obtain ⟨stopped, w', t', recalls', run', held'⟩ :=
        ih (fun cell listed => among cell (List.mem_cons_of_mem _ listed)) held.live
          (by rw [same]; omega) t₁ (start + 1)
      rw [same, held.list] at recalls' held'
      refine ⟨stopped, w', t', recalls.append recalls', ?_, fun unstopped => ?_⟩
      · simp only [List.map_cons, List.zipIdx_cons, sweep, EStateM.run_bind, VisitM.run_withState,
          listed]
        exact run'
      · rw [KeepLimits.rememberAll_append, List.length_append]
        exact held.trans (held' unstopped)

end Sweep

end Calls

/-! ## Call after call -/

/-- A redundant store over in-memory copies, with a naive dedup over a store of its own. -/
def remembering (policy : ReplicaPolicy) (backs : List (Ref .memory)) (scratch : Ref .memory)
    (ages : Ref .ages) (maxKeys cleanFactor : Nat) : Store :=
  .redundant policy (backs.map .memory) (.naive ages ⟨maxKeys, maxKeys * cleanFactor⟩)
    (.memory scratch)

/-- The worlds after so many completed calls for the keys of a store, whose dedup was opened on an
    empty store. Until the first call the copies may be written, so that they hold the given keys;
    from then on they stay as they are, and nobody else touches the dedup. -/
inductive Completed (policy : ReplicaPolicy) (backs : List (Ref .memory)) (scratch : Ref .memory)
    (ages : Ref .ages) (maxKeys cleanFactor : Nat) (delivered : List Bytes) :
    Nat → World → Prop where
  | opened {w w₁ now} (empty : w.entries scratch = .empty)
      (run : (Dedup.newNaive (.memory scratch) maxKeys cleanFactor).run w =
        .ok (.naiveOn scratch ages maxKeys cleanFactor) w₁)
      (same : SameCells [scratch] ages w₁ now) (held : keysHeld backs now = delivered) :
      Completed policy backs scratch ages maxKeys cleanFactor delivered 0 now
  | keys {n now τ} {visit : Bytes → VisitM τ Unit} {t : τ} {s : World × τ}
      (before : Completed policy backs scratch ages maxKeys cleanFactor delivered n now)
      (apart : ∀ key, Leaves (SameCells (scratch :: backs) ages) (visit key))
      (run : ((remembering policy backs scratch ages maxKeys cleanFactor).keys visit).run (now, t) =
        .ok () s) : Completed policy backs scratch ages maxKeys cleanFactor delivered (n + 1) s.1
  | meanwhile {n now later}
      (before : Completed policy backs scratch ages maxKeys cleanFactor delivered n now)
      (same : SameCells (scratch :: backs) ages now later) :
      Completed policy backs scratch ages maxKeys cleanFactor delivered n later

section Completed

variable {policy : ReplicaPolicy} {backs : List (Ref .memory)} {scratch : Ref .memory}
  {ages : Ref .ages} {maxKeys cleanFactor n : Nat} {delivered : List Bytes} {w : World} {τ : Type}
  {visit : Bytes → VisitM τ Unit}

theorem Completed.sensible
    (done : Completed policy backs scratch ages maxKeys cleanFactor delivered n w) :
    Sensible maxKeys cleanFactor := by
  induction done with
  | opened empty run same held => exact .of_run run
  | keys before apart run ih => exact ih
  | meanwhile before same ih => exact ih

/-- One call, whatever the dedup remembers at first. -/
theorem run_keys_recalls (policy : ReplicaPolicy) (own : scratch ∉ backs)
    (sensible : Sensible maxKeys cleanFactor)
    (apart : ∀ key, Leaves (SameCells (scratch :: backs) ages) (visit key))
    (live : Live scratch ages w)
    (room : newest (w.entries scratch) + (keysHeld backs w).length < UInt64.size - 1) (t : τ) :
    let limits : KeepLimits := ⟨maxKeys, maxKeys * cleanFactor⟩
    ∃ stopped s, Recalls limits visit (order (w.entries scratch)) (keysHeld backs w) (w, t)
        stopped s ∧
      ((remembering policy backs scratch ages maxKeys cleanFactor).keys visit).run (w, t) =
        (Ending.closing (.ok ()) stopped).result s ∧
      (stopped = none → Held scratch backs ages
        (limits.rememberAll (order (w.entries scratch)) (keysHeld backs w))
        (keysHeld backs w).length w s.1) := by
  intro limits
  obtain ⟨stopped, w', t', recalls, run, held⟩ := run_sweep_recalls limits own sensible.keeps
    apart backs (fun _ listed => listed) live room t 0
  refine ⟨stopped, (w', t'), recalls, ?_, held⟩
  have named : numbered "keys of storage" (Store.storages (backs.map .memory)) =
      (backs.map Storage.memory).zipIdx.map fun (back, index) =>
        (s!"keys of storage {index}", back) := by
    rw [Store.storages_eq_map, List.map_map]
    rfl
  simp only [remembering, Store.keys, Store.storage, redundant, named, EStateM.run_bind]
  rw [run]
  cases stopped with
  | none => rfl
  | some e => rfl

theorem order_empty : order .empty = [] := by
  rw [order, aged]
  exact List.map_eq_nil_iff.mpr (List.mergeSort_nil)

/-- A dedup that was opened on an empty store is alive there. -/
theorem live_opened {w₁ : World} (empty : w.entries scratch = .empty)
    (run : (Dedup.newNaive (.memory scratch) maxKeys cleanFactor).run w =
      .ok (.naiveOn scratch ages maxKeys cleanFactor) w₁) :
    Live scratch ages w₁ ∧ w₁.entries scratch = .empty := by
  have few : newest (w.entries scratch) + 1 < UInt64.size := by
    rw [empty]
    decide
  obtain ⟨ages', w₂, run', entries, live⟩ := run_newNaive (.of_run run) scratch w few
  rw [run] at run'
  cases run'
  exact ⟨live, by rw [entries, empty]⟩

/-- After completed calls the dedup remembers what they left, and it has saved no more keys than
    were delivered. -/
theorem Completed.remembers (own : scratch ∉ backs)
    (done : Completed policy backs scratch ages maxKeys cleanFactor delivered n w)
    (room : n * delivered.length < UInt64.size - 1) :
    let limits : KeepLimits := ⟨maxKeys, maxKeys * cleanFactor⟩
    Live scratch ages w ∧ order (w.entries scratch) = limits.rounds delivered n ∧
      keysHeld backs w = delivered ∧ newest (w.entries scratch) ≤ n * delivered.length := by
  intro limits
  induction done with
  | @opened w w₁ now empty run same held =>
    obtain ⟨live, left⟩ := live_opened empty run
    have kept := same.entries scratch List.mem_cons_self
    rw [left] at kept
    refine ⟨live.congr (kept.trans left.symm) same.known, ?_, held, ?_⟩
    · rw [kept]
      exact order_empty
    · rw [kept]
      exact Nat.zero_le _
  | @keys n now τ visit t s before apart run ih =>
    rw [Nat.succ_mul] at room ⊢
    obtain ⟨live, list, same, numbers⟩ := ih (by omega)
    obtain ⟨stopped, s', recalls, run', held⟩ := run_keys_recalls policy own
      before.sensible apart live (by rw [same]; omega) t
    rw [run] at run'
    cases stopped with
    | some e => cases run'
    | none =>
      cases run'
      have held := held rfl
      have kept := held.keysHeld fun _ listed => listed
      have further := held.numbers
      rw [same] at kept further
      refine ⟨held.live, ?_, kept, by omega⟩
      rw [held.list, list, same]
      rfl
  | meanwhile before same ih =>
    obtain ⟨live, list, held, numbers⟩ := ih room
    have start : Held scratch backs ages _ 0 _ _ := ⟨live, list, fun _ _ => rfl, Nat.le_refl _⟩
    have later := start.same same
    refine ⟨later.live, later.list, (later.keysHeld fun _ listed => listed).trans held, ?_⟩
    exact Nat.le_trans later.numbers numbers

/-- What the next call shows: the keys that the dedup does not remember when they come up, in the
    order of the copies. A visitor that never fails is shown all of them. The first call shows every
    key that some copy holds. If nothing is ever dropped, since the keys are few, the first call
    shows each of them once, and no later call shows any. -/
theorem keys_shown_unless_remembered (own : scratch ∉ backs)
    (done : Completed policy backs scratch ages maxKeys cleanFactor delivered n w)
    (room : (n + 1) * delivered.length < UInt64.size - 1)
    (apart : ∀ key, Leaves (SameCells (scratch :: backs) ages) (visit key)) (t : τ) :
    let store := remembering policy backs scratch ages maxKeys cleanFactor
    let limits : KeepLimits := ⟨maxKeys, maxKeys * cleanFactor⟩
    let news := limits.news (limits.rounds delivered n) delivered
    ∃ shown ending after, (store.keys visit).run (w, t) = ending.result after ∧
      Shows (fun _ _ => True) visit (w, t) shown ending after ∧
      (ending = .finished (.ok ()) ∧ shown = news ∨ (∃ e, ending = .stopped e) ∧ shown <+: news) ∧
      ((∀ key s, ∃ s', (visit key).run s = .ok () s') → ending = .finished (.ok ())) ∧
      (n = 0 → ∀ cell ∈ backs, ∀ key, (w.entries cell).contains key = true → key ∈ news) ∧
      (delivered.eraseDups.length < maxKeys * cleanFactor →
        news = if n = 0 then delivered.eraseDups else []) := by
  intro store limits news
  rw [Nat.succ_mul] at room
  obtain ⟨live, list, held, numbers⟩ := done.remembers own (by omega)
  obtain ⟨stopped, after, recalls, run, -⟩ := run_keys_recalls policy own
    done.sensible apart live (by rw [held]; omega) t
  obtain ⟨shown, shows, part, whole⟩ := recalls.shows
  rw [list, held] at part whole
  refine ⟨shown, _, after, run, shows, ?_, fun steady => ?_, fun first cell listed key stored => ?_,
    fun few => KeepLimits.news_rounds_of_few few n⟩
  · cases stopped with
    | none => exact .inl ⟨rfl, whole rfl⟩
    | some e => exact .inr ⟨⟨e, rfl⟩, part⟩
  · obtain ⟨outcome, finished⟩ := shows.finishes steady
    cases stopped with
    | none => rfl
    | some e => cases finished
  · have member : key ∈ delivered := by
      rw [← held]
      exact List.mem_flatMap.mpr ⟨cell, listed, (SortedMap.mem_keys_iff _).mpr stored⟩
    subst first
    exact (KeepLimits.mem_news_or_mem member).resolve_right List.not_mem_nil

end Completed

/-! ## Calls on fixed inputs -/

/-- Two copies of two keys each. -/
def replicated : World :=
  let w : World := { randomness := fun _ => 0 }
  let w := w.changeMemory ⟨1⟩ fun m => (m.put [1] []).put [2] []
  w.changeMemory ⟨2⟩ fun m => (m.put [1] []).put [2] []

def opening (maxKeys cleanFactor : Nat) : World :=
  stateAfter (Dedup.newNaive (.memory ⟨0⟩) maxKeys cleanFactor) replicated

/-- The store over the two copies. -/
def overReplicas (maxKeys cleanFactor : Nat) : Store :=
  remembering (.quorum .any) [⟨1⟩, ⟨2⟩] ⟨0⟩ ⟨0⟩ maxKeys cleanFactor

/-- The keys that a call shows, with the world that it leaves. -/
def listing (maxKeys cleanFactor : Nat) (w : World) : World × List Bytes :=
  stateAfter ((overReplicas maxKeys cleanFactor).keys collect) (w, [])

theorem completed_listing :
    Completed (.quorum .any) [⟨1⟩, ⟨2⟩] ⟨0⟩ ⟨0⟩ 2 2 [[1], [2], [1], [2]] 1
      (listing 2 2 (opening 2 2)).1 := by
  have opened : Completed (.quorum .any) [⟨1⟩, ⟨2⟩] ⟨0⟩ ⟨0⟩ 2 2 [[1], [2], [1], [2]] 0
      (opening 2 2) := .opened (w := replicated) rfl rfl ⟨fun _ _ => rfl, rfl⟩ rfl
  have apart : ∀ key, Leaves (SameCells [⟨0⟩, ⟨1⟩, ⟨2⟩] ⟨0⟩) (collect key) :=
    fun key s => ⟨fun _ _ => rfl, rfl⟩
  exact opened.keys (t := []) (s := listing 2 2 (opening 2 2)) apart rfl

theorem second_call_shows_none :
    Completed (.quorum .any) [⟨1⟩, ⟨2⟩] ⟨0⟩ ⟨0⟩ 2 2 [[1], [2], [1], [2]] 1
      (listing 2 2 (opening 2 2)).1 ∧
    (1 + 1) * [[1], [2], [1], [2]].length < UInt64.size - 1 ∧
    ∃ after, ((overReplicas 2 2).keys collect).run ((listing 2 2 (opening 2 2)).1, []) =
        .ok () after ∧
      Shows (fun _ _ => True) collect ((listing 2 2 (opening 2 2)).1, []) [] (.finished (.ok ()))
        after := by
  have apart : ∀ key, Leaves (SameCells [⟨0⟩, ⟨1⟩, ⟨2⟩] ⟨0⟩) (collect key) :=
    fun key s => ⟨fun _ _ => rfl, rfl⟩
  have room : (1 + 1) * [[1], [2], [1], [2]].length < UInt64.size - 1 := by decide
  obtain ⟨shown, ending, after, run, shows, ended, steady, -, few⟩ :=
    keys_shown_unless_remembered (by decide) completed_listing room apart []
  have finished := steady fun key s => ⟨_, rfl⟩
  have none := few (by decide)
  subst finished
  obtain ⟨-, rfl⟩ | ⟨⟨e, stopped⟩, -⟩ := ended
  · rw [none] at shows
    exact ⟨completed_listing, room, after, run, shows⟩
  · cases stopped

/-- With room for both keys a second call misses them; with room for one the first call repeats
    them. -/
theorem keys_missed_or_repeated :
    Completed (.quorum .any) [⟨1⟩, ⟨2⟩] ⟨0⟩ ⟨0⟩ 2 2 [[1], [2], [1], [2]] 1
      (listing 2 2 (opening 2 2)).1 ∧
    ((overReplicas 2 2).keys collect).run ((listing 2 2 (opening 2 2)).1, []) =
      .ok () (listing 2 2 (listing 2 2 (opening 2 2)).1) ∧
    (((listing 2 2 (opening 2 2)).1.entries ⟨1⟩).contains [1] = true) ∧
    (listing 2 2 (listing 2 2 (opening 2 2)).1).2 = [] ∧
    ((overReplicas 1 1).keys collect).run (opening 1 1, []) = .ok () (listing 1 1 (opening 1 1)) ∧
    (listing 1 1 (opening 1 1)).2 = [[1], [2], [1], [2]] :=
  ⟨completed_listing, rfl, rfl, rfl, rfl, rfl⟩

end StoreGraph
