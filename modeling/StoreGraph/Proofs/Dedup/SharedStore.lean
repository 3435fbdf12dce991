import Mathlib.Logic.Function.Basic
import StoreGraph.Proofs.Graph.Epochs
import StoreGraph.Proofs.Plain

/-! # Stores that dedups share

What dedups rely on in the store that they share: it holds a map from keys to values, single calls
may fail without effect, and whatever only draws tokens leaves it alone (`ServesMap`). Plain stores
do so whatever their rules, and so do stores over any graph of memory cells; of these some are able
to remove every key at once and some are not.
-/

namespace StoreGraph

/-- No store holds anything else than before. -/
structure SameContents (w w' : World) : Prop where
  memories : w'.memories = w.memories
  probes : w'.probes = w.probes
  pools : w'.pools = w.pools
  ages : w'.ages = w.ages

section Ends

variable {w w' : World}

/-- What holds after an action that succeeds, and what holds after it fails. -/
structure Ends {α : Type} (x : StoreM α) (w : World) (P Q : World → Prop) : Prop where
  ok : ∀ {a w'}, x.run w = .ok a w' → P w'
  error : ∀ {e w'}, x.run w = .error e w' → Q w'

theorem Ends.of_ok {α : Type} {x : StoreM α} {a : α} {P Q : World → Prop}
    (run : x.run w = .ok a w') (h : P w') : Ends x w P Q where
  ok {b w''} ran := by
    rw [run] at ran
    cases ran
    exact h
  error {e w''} ran := by
    rw [run] at ran
    cases ran

theorem Ends.of_error {α : Type} {x : StoreM α} {e : Error} {P Q : World → Prop}
    (run : x.run w = .error e w') (h : Q w') : Ends x w P Q where
  ok {b w''} ran := by
    rw [run] at ran
    cases ran
  error {e w''} ran := by
    rw [run] at ran
    cases ran
    exact h

theorem Ends.congr {x y : StoreM Unit} {P Q : World → Prop} (same : x.run w = y.run w)
    (h : Ends y w P Q) : Ends x w P Q :=
  ⟨fun run => h.ok (same.symm.trans run), fun run => h.error (same.symm.trans run)⟩

end Ends

/-- The action answers as stated and the store then holds the second map, or it fails and the store
    holds the first one. No token is touched. -/
inductive Turns {α : Type} (Keeps : World → (Bytes → Option Bytes) → Prop) (x : StoreM α)
    (w : World) (a : α) (before after : Bytes → Option Bytes) : Prop where
  | done {w'} (run : x.run w = .ok a w') (keeps : Keeps w' after) (epochs : SameEpochs w w')
  | failed {w' e} (run : x.run w = .error e w') (keeps : Keeps w' before)
      (epochs : SameEpochs w w')

theorem Turns.ends {Keeps : World → (Bytes → Option Bytes) → Prop} {α : Type} {x : StoreM α}
    {w : World} {a : α} {before after : Bytes → Option Bytes}
    (turns : Turns Keeps x w a before after) :
    Ends x w (fun w' => Keeps w' after ∧ SameEpochs w w')
      (fun w' => Keeps w' before ∧ SameEpochs w w') := by
  cases turns with
  | done run keeps epochs => exact .of_ok run ⟨keeps, epochs⟩
  | failed run keeps epochs => exact .of_error run ⟨keeps, epochs⟩

/-- A store that holds a map from keys to values. -/
structure ServesMap (s : Store) (Keeps : World → (Bytes → Option Bytes) → Prop) : Prop where
  beside : ∀ {w w' m}, SameContents w w' → Keeps w m → Keeps w' m
  find : ∀ {w m}, Keeps w m → ∀ key, Turns Keeps (s.find? key) w (m key) m m
  put : ∀ {w m}, Keeps w m → ∀ key value,
    Turns Keeps (s.put key value) w () m (Function.update m key (some value))
  clear : ∀ {w m}, Keeps w m → ∀ clear, s.clear? = some clear →
    Turns Keeps clear w () m fun _ => none

/-! ## Graphs of memory cells -/

namespace Store

/-- The leaves of a store hold a map, each key in the leaves to which it belongs. -/
def Agrees (s : Store) (w : World) (m : Bytes → Option Bytes) : Prop :=
  ∀ key cell, LeafFor key s cell → (w.entries cell).get? key = m key

variable {s : Store}

theorem servesMap_wired (wired : Wired s) : ServesMap s s.Agrees where
  beside same agrees key cell leaf := by
    rw [World.entries, same.memories]
    exact agrees key cell leaf
  find {w m} agrees key := by
    have got := run_get wired (agrees key)
    have run : (s.find? key).run w = .ok (m key) w := by
      change (s.storage.get key).run w = _ at got
      simp only [find?, Storage.find?, EStateM.run_bind, run_attempt, got]
      cases m key <;> rfl
    exact .done run agrees (frame_sameEpochs.refl w)
  put {w m} agrees key value := by
    obtain ⟨w', run, wrote⟩ := writes_put wired key value w
    refine .done run ?_ ((put_sameEpochs wired key value).of_ok run)
    intro other cell leaf
    by_cases same : other = key
    · subst same
      rw [wrote.written cell leaf, Function.update_self]
    · rw [wrote.kept cell other fun both => same both.2, Function.update_of_ne same]
      exact agrees other cell leaf
  clear {w m} agrees clear able := by
    cases wired with
    | sharded => cases able
    | redundant => cases able
    | memory cell =>
      cases able
      have run : EStateM.run ((Store.memory cell).clear?.getD (pure ())) w =
          .ok () (w.changeMemory cell (·.clear)) := rfl
      refine .done run ?_ ⟨rfl, rfl, rfl⟩
      rintro key cell' ⟨⟩
      rw [World.entries_clear, if_pos rfl, SortedMap.get?_empty]

end Store

/-! ## Plain stores -/

namespace PlainStore

/-- The entries of a store are a map, and no read fails as if the key were absent. -/
structure Agrees (p : PlainStore) (w : World) (m : Bytes → Option Bytes) : Prop where
  candid : p.Candid w
  held : ∀ key, (p.entries w).get? key = m key

section Epochs

variable {cell : Ref .probe} (traits : ProbeTraits) (call : Call)

theorem sameEpochs_enter : Moves SameEpochs (Probe.enter cell call) := by
  intro w
  rw [stateAfter, Probe.run_enter]
  cases w.fault? cell call with
  | none => exact ⟨rfl, rfl, rfl⟩
  | some e => exact ⟨rfl, rfl, rfl⟩

theorem sameEpochs_write (f : Probe → Probe) : Moves SameEpochs (Probe.write cell call f) :=
  .bind frame_sameEpochs (sameEpochs_enter call) fun _ _ => ⟨rfl, rfl, rfl⟩

theorem sameEpochs_find (p : PlainStore) (key : Bytes) :
    Moves SameEpochs (p.store.find? key) := by
  have frame := frame_sameEpochs
  refine .find frame ?_
  cases p with
  | memory cell =>
    refine .bind frame (frame.refl ·) fun entries => ?_
    split
    · exact .pure frame _
    · exact .throw frame _
  | probe cell traits =>
    refine .bind frame (sameEpochs_enter (.get key)) fun _ => ?_
    refine .bind frame (frame.refl ·) fun entries => ?_
    split
    · exact .pure frame _
    · exact .throw frame _

end Epochs

variable {p : PlainStore} {w : World} {m m' : Bytes → Option Bytes}

theorem turns_of_writes {x : StoreM Unit} {entries : SortedMap Bytes Bytes} (agrees : p.Agrees w m)
    (writes : p.Writes x w entries) (epochs : Moves SameEpochs x)
    (held : ∀ key, entries.get? key = m' key) : Turns p.Agrees x w () m m' := by
  cases writes with
  | done steady written run =>
    refine .done run ⟨steady.candid agrees.candid, ?_⟩ (epochs.of_ok run)
    rw [written]
    exact held
  | failed spares _ run =>
    refine .failed run ⟨spares.candid agrees.candid, ?_⟩ (epochs.of_error run)
    rw [spares.entries]
    exact agrees.held

theorem servesMap (p : PlainStore) : ServesMap p.store p.Agrees where
  beside {w w' m} same agrees := by
    cases p with
    | memory cell =>
      refine ⟨trivial, fun key => ?_⟩
      rw [entries, World.entries, same.memories]
      exact agrees.held key
    | probe cell traits =>
      refine ⟨?_, fun key => ?_⟩
      · rw [Candid, World.rules, same.probes]
        exact agrees.candid
      · rw [entries, World.probed, same.probes]
        exact agrees.held key
  find {w m} agrees key := by
    rw [← agrees.held key]
    have kept : ∀ {w'}, p.Spares w w' → p.Agrees w' m := by
      intro w' spares
      refine ⟨spares.candid agrees.candid, ?_⟩
      rw [spares.entries]
      exact agrees.held
    cases tries_find agrees.candid key with
    | answers spares run => exact .done run (kept spares) ((sameEpochs_find p key).of_ok run)
    | fails spares _ run => exact .failed run (kept spares) ((sameEpochs_find p key).of_error run)
  put {w m} agrees key value := by
    refine turns_of_writes agrees (writes_put p key value w) ?_ ?_
    · cases p with
      | memory cell => exact fun _ => ⟨rfl, rfl, rfl⟩
      | probe cell traits => exact sameEpochs_write (.put key value) (·.put key value)
    · intro other
      rw [SortedMap.get?_insert, Function.update_apply, agrees.held other]
  clear {w m} agrees clear able := by
    cases p with
    | memory cell =>
      cases able
      have steady : (memory cell).Steady w (w.changeMemory cell (·.clear)) := ⟨id, id⟩
      have written : (memory cell).entries (w.changeMemory cell (·.clear)) = .empty :=
        (World.entries_clear w cell cell).trans (if_pos rfl)
      refine turns_of_writes agrees (.done steady written rfl) (fun _ => ⟨rfl, rfl, rfl⟩) ?_
      exact fun key => SortedMap.get?_empty key
    | probe cell traits =>
      have writes : (probe cell traits).Writes (Probe.write cell .clear (·.clear)) w .empty :=
        writes_of_probe (Probe.writes_write .clear (·.clear) (fun _ => rfl) w rfl)
      have same : clear = Probe.write cell .clear (·.clear) := by
        change (if traits.clearable then _ else none) = some clear at able
        split at able
        · cases able
          rfl
        · cases able
      rw [same]
      exact turns_of_writes agrees writes (sameEpochs_write .clear (·.clear)) fun key =>
        SortedMap.get?_empty key

end PlainStore

end StoreGraph
