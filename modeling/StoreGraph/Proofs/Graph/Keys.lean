import StoreGraph.Proofs.Graph.Access
import StoreGraph.Proofs.Graph.Footprint
import StoreGraph.Proofs.Redundant.Keys

/-! # The keys of store graphs

Enumerating a store graph whose dedups are private shows what its leaves hold, and leaves nothing
marked. The visitor of a store below marks keys for the store above it, so the statement is proved
for every visitor that spares the footprint (`showsHeld`).
-/

namespace StoreGraph

/-- The keys are those that satisfy `held`, all of them unless the enumeration was stopped. -/
structure Reports (held : Bytes → Prop) (keys : List Bytes) (ending : Ending) : Prop where
  unfailing : ending = .finished (.ok ()) ∨ ∃ e, ending = .stopped e
  sound : ∀ key ∈ keys, held key
  whole : ending = .finished (.ok ()) → ∀ key, held key → key ∈ keys

namespace Reports

variable {held held' : Bytes → Prop} {keys later : List Bytes} {ending : Ending}

theorem congr (same : ∀ key, held key ↔ held' key) (h : Reports held keys ending) :
    Reports held' keys ending where
  unfailing := h.unfailing
  sound key member := (same key).mp (h.sound key member)
  whole ended key holds := h.whole ended key ((same key).mpr holds)

theorem append (first : Reports held keys (.finished (.ok ())))
    (second : Reports held' later ending) :
    Reports (fun key => held key ∨ held' key) (keys ++ later) ending where
  unfailing := second.unfailing
  sound key member :=
    (List.mem_append.mp member).imp (first.sound key) (second.sound key)
  whole ended key holds :=
    List.mem_append.mpr (holds.imp (first.whole rfl key) (second.whole ended key))

/-- What was still to be shown when the enumeration was stopped. -/
theorem stopped {e : Error} (h : Reports held keys (.stopped e)) (held' : Bytes → Prop) :
    Reports (fun key => held key ∨ held' key) keys (.stopped e) where
  unfailing := h.unfailing
  sound key member := .inl (h.sound key member)
  whole := nofun

end Reports

namespace Store

open Footprint

/-- Enumerating the store, from a world in which it has marked nothing, shows what its leaves hold;
    a redundant store shows each key once. -/
def ShowsHeld (s : Store) : Prop :=
  ∀ {τ : Type} (visit : Bytes → VisitM τ Unit) (w : World) (t : τ), (of s).Clean w →
    (∀ key, Leaves (of s).Outside (visit key)) →
      ∃ keys ending stop, Shows (of s).Quiet visit (w, t) keys ending stop ∧
        (s.keys visit).run (w, t) = ending.result stop ∧ (of s).Clean stop.1 ∧
        Reports ((of s).Holds w) keys ending ∧ (s.isRedundant = true → keys.Nodup)

theorem holds_memory_iff {cell : Ref .memory} {w : World} {key : Bytes} :
    (of (.memory cell)).Holds w key ↔ key ∈ (w.entries cell).keys := by
  rw [SortedMap.mem_keys_iff, SortedMap.contains, Option.isSome_iff_ne_none]
  constructor
  · intro holds
    obtain ⟨_, ⟨⟩, held⟩ := holds
    exact held
  · exact fun held => ⟨cell, .memory, held⟩

theorem holds_cons_iff {s : Store} {rest : List Store} {w w' : World}
    (kept : ∀ s' ∈ rest, ∀ key, (of s').Holds w' key ↔ (of s').Holds w key) (key : Bytes) :
    ((of s).Holds w key ∨ ∃ s' ∈ rest, (of s').Holds w' key) ↔
      ∃ s' ∈ s :: rest, (of s').Holds w key := by
  simp only [List.mem_cons, exists_eq_or_imp]
  refine or_congr_right ?_
  exact exists_congr fun s' => and_congr_right fun member => kept s' member key

theorem holds_sharded_iff {pool : ShardPool} {stock : List Store} {w : World} (key : Bytes) :
    (∃ s ∈ stock, (of s).Holds w key) ↔ (of (.sharded pool stock)).Holds w key := by
  constructor
  · intro holds
    obtain ⟨s, member, cell, leaf, held⟩ := holds
    exact ⟨cell, .sharded member leaf, held⟩
  · intro holds
    obtain ⟨cell, leaf, held⟩ := holds
    cases leaf with
    | sharded member leaf => exact ⟨_, member, cell, leaf, held⟩

theorem holds_redundant_iff {policy : ReplicaPolicy} {backs : List Store} {dedup : DedupScheme}
    {offload : Store} {w : World} (key : Bytes) :
    (∃ s ∈ backs, (of s).Holds w key) ↔
      (of (.redundant policy backs dedup offload)).Holds w key := by
  constructor
  · intro holds
    obtain ⟨s, member, cell, leaf, held⟩ := holds
    exact ⟨cell, .redundant member leaf, held⟩
  · intro holds
    obtain ⟨cell, leaf, held⟩ := holds
    cases leaf with
    | redundant member leaf => exact ⟨_, member, cell, leaf, held⟩

/-- What came of enumerating a memory cell. -/
theorem reports_memory (cell : Ref .memory) {τ : Type} (visit : Bytes → VisitM τ Unit) (w : World)
    (t : τ) : Reports ((of (.memory cell)).Holds w) ((memoryCourse cell w).follow visit t).keys
      ((memoryCourse cell w).follow visit t).ending := by
  obtain ⟨ended, whole⟩ | ⟨⟨e, stopped⟩, part⟩ :=
    Course.follow_each visit (w.entries cell).keys w t
  · refine ⟨.inl ended, ?_, ?_⟩
    · intro key member
      exact holds_memory_iff.mpr (whole ▸ member)
    · intro _ key held
      exact whole.symm ▸ holds_memory_iff.mp held
  · refine ⟨.inr ⟨e, stopped⟩, fun key member => holds_memory_iff.mpr (part key member), ?_⟩
    intro ended
    rw [memoryCourse, stopped] at ended
    cases ended

theorem showsHeld_memory (cell : Ref .memory) : ShowsHeld (.memory cell) := by
  intro τ visit w t clean _
  have follows : Follows (of (.memory cell)).Quiet (memoryCourse cell) (Storage.memory cell) :=
    follows_memory Only.refl cell
  exact ⟨_, _, _, (follows.quiet w).shows visit t, follows.run visit w t, nofun,
    reports_memory cell visit w t, nofun⟩

section Several

variable {g : Footprint} {stores : List Store} {τ : Type} {w : World} {t : τ}

/-- What stores hold is the same after some of them were enumerated. -/
theorem holds_kept {s : Store} (part : (of s).Part g) {w' : World}
    (kept : ∀ cell, g.leaf cell → w'.entries cell = w.entries cell) (key : Bytes) :
    (of s).Holds w' key ↔ (of s).Holds w key :=
  holds_congr (fun cell leaf => kept cell (part.leaf leaf)) key

/-- Stores enumerated one after the other show together what they hold. -/
theorem shows_forM (parts : ∀ s ∈ stores, (of s).Part g) (apart : g.Apart)
    (each : ∀ s ∈ stores, ShowsHeld s) {visit : Bytes → VisitM τ Unit} (clean : g.Clean w)
    (outside : ∀ key, Leaves g.Outside (visit key)) :
    ∃ keys ending stop, Shows g.Quiet visit (w, t) keys ending stop ∧
      (stores.forM fun s => s.keys visit).run (w, t) = ending.result stop ∧ g.Clean stop.1 ∧
      Reports (fun key => ∃ s ∈ stores, (of s).Holds w key) keys ending := by
  induction stores generalizing w t with
  | nil =>
    exact ⟨[], .finished (.ok ()), (w, t), .finish _ (Only.refl w), rfl, clean, .inl rfl, nofun,
      by simp⟩
  | cons s rest ih =>
    have part := parts s List.mem_cons_self
    obtain ⟨keys, ending, ⟨w₁, t₁⟩, course, run, clean₁, reports, -⟩ :=
      each s List.mem_cons_self visit w t (clean.part part)
        fun key s => part.outside (outside key s)
    have clean₁ := clean_kept outside clean course clean₁
    have kept := leaves_kept part apart outside course
    have course := course.mono fun _ _ => part.quiet
    simp only [List.forM, EStateM.run_bind, run]
    obtain rfl | ⟨e, rfl⟩ := reports.unfailing
    · obtain ⟨later, ending, stop, course', run', clean', reports'⟩ :=
        ih (fun s member => parts s (List.mem_cons_of_mem _ member))
          (fun s member => each s (List.mem_cons_of_mem _ member)) clean₁
      refine ⟨keys ++ later, ending, stop, course.append (fun _ _ _ => Only.trans) course', run',
        clean', (reports.append reports').congr (holds_cons_iff fun s' member' => ?_)⟩
      exact holds_kept (parts s' (List.mem_cons_of_mem _ member')) kept
    · exact ⟨keys, .stopped e, (w₁, t₁), course, rfl, clean₁,
        (reports.stopped _).congr (holds_cons_iff fun _ _ _ => .rfl)⟩

/-- Stores swept by a redundant store show together what they hold. -/
theorem sweeps_held (parts : ∀ s ∈ stores, (of s).Part g) (apart : g.Apart)
    (each : ∀ s ∈ stores, ShowsHeld s) {visit : Bytes → VisitM (τ × Bool) Unit}
    (clean : g.Clean w) (outside : ∀ key, Leaves g.Outside (visit key)) :
    ∃ accounts final, Sweeps g.Quiet visit (storages stores) (w, t) accounts final ∧
      g.Clean final.1 ∧
      (∀ account ∈ accounts, account.ending = .finished (.ok ()) ∨
        ∃ e, account.ending = .stopped e) ∧
      (∀ account ∈ accounts, ∀ key ∈ account.keys, ∃ s ∈ stores, (of s).Holds w key) ∧
      (haltedBy accounts = none → ∀ s ∈ stores, ∀ key, (of s).Holds w key →
        ∃ account ∈ accounts, key ∈ account.keys) := by
  induction stores generalizing w t with
  | nil => exact ⟨[], (w, t), .done (w, t), clean, nofun, nofun, nofun⟩
  | cons s rest ih =>
    have part := parts s List.mem_cons_self
    obtain ⟨keys, ending, ⟨w₁, t₁, flag⟩, course, run, clean₁, reports, -⟩ :=
      each s List.mem_cons_self visit w (t, false) (clean.part part)
        fun key s => part.outside (outside key s)
    have clean₁ := clean_kept outside clean course clean₁
    have kept := leaves_kept part apart outside course
    have course := course.mono fun _ _ => part.quiet
    obtain rfl | ⟨e, rfl⟩ := reports.unfailing
    · obtain ⟨accounts, final, swept, clean', unfailing, sound, whole⟩ :=
        ih (t := t₁) (fun s member => parts s (List.mem_cons_of_mem _ member))
          (fun s member => each s (List.mem_cons_of_mem _ member)) clean₁
      refine ⟨_, final, .next course run swept, clean', ?_, ?_, ?_⟩
      · exact List.forall_mem_cons.mpr ⟨.inl rfl, unfailing⟩
      · refine List.forall_mem_cons.mpr ⟨?_, ?_⟩
        · exact fun key member => ⟨s, List.mem_cons_self, reports.sound key member⟩
        · intro account member key shown
          obtain ⟨s', member', held⟩ := sound account member key shown
          have member' := List.mem_cons_of_mem s member'
          exact ⟨s', member', (holds_kept (parts s' member') kept key).mp held⟩
      · intro unhalted s' member' key held
        obtain rfl | member' := List.mem_cons.mp member'
        · exact ⟨_, List.mem_cons_self, reports.whole rfl key held⟩
        · have part' := parts s' (List.mem_cons_of_mem _ member')
          obtain ⟨account, member, shown⟩ := whole unhalted s' member' key
            ((holds_kept part' kept key).mpr held)
          exact ⟨account, List.mem_cons_of_mem _ member, shown⟩
    · refine ⟨_, _, .halt course run, clean₁, ?_, ?_, nofun⟩
      · exact List.forall_mem_singleton.mpr (.inr ⟨e, rfl⟩)
      · refine List.forall_mem_singleton.mpr ?_
        exact fun key member => ⟨s, List.mem_cons_self, reports.sound key member⟩

end Several

/-- The shards from some position on; `before` are the shards before it. -/
theorem run_forM_range {pool : ShardPool} (ready : pool.opening = .ready) {τ : Type}
    (visit : Bytes → VisitM τ Unit) (size : Nat) (before stock : List Store) (w : World) (t : τ) :
    ((List.range' before.length stock.length).forM fun index => do
        let slot ← StoreM.visiting (pool.slot size index)
        (slot.choose (storages (before ++ stock)) Storage.memory Storage.nop).keys visit).run (w, t)
      = (stock.forM fun s => s.keys visit).run (w, t) := by
  induction stock generalizing before w t with
  | nil => rfl
  | cons s rest ih =>
    have owns : (before ++ s :: rest)[before.length]? = some s := by simp
    rw [List.length_cons, List.range'_succ]
    simp only [List.forM, EStateM.run_bind, StoreM.run_visiting, run_slot ready]
    rw [choose_stocked owns]
    have further := ih (before ++ [s])
    rw [List.append_assoc, List.singleton_append, List.length_append, List.length_singleton]
      at further
    simp only [keys]
    cases (s.storage.keys visit).run (w, t) with
    | error e s' => rfl
    | ok _ s' => exact further s'.1 s'.2

/-- The shards of a pool whose shards are ready are enumerated in order. -/
theorem run_iterate {pool : ShardPool} {stock : List Store} (ready : pool.opening = .ready)
    (count : pool.count = stock.length) {τ : Type} (visit : Bytes → VisitM τ Unit) (w : World)
    (t : τ) :
    ((Store.sharded pool stock).keys visit).run (w, t) =
      (stock.forM fun s => s.keys visit).run (w, t) := by
  have all := run_forM_range ready visit (storages stock).length [] stock w t
  rw [List.nil_append, List.length_nil, ← List.range_eq_range', ← count] at all
  exact all

theorem showsHeld_sharded {pool : ShardPool} {stock : List Store}
    (ready : pool.opening = .ready) (count : pool.count = stock.length)
    (apart : (of (.sharded pool stock)).Apart) (each : ∀ s ∈ stock, ShowsHeld s) :
    ShowsHeld (.sharded pool stock) := by
  intro τ visit w t clean outside
  have parts : ∀ s ∈ stock, (of s).Part (of (.sharded pool stock)) := fun s member =>
    ⟨fun h => .sharded member h, fun h => .sharded member h, fun h => .sharded member h⟩
  obtain ⟨keys, ending, stop, course, run, clean', reports⟩ :=
    shows_forM parts apart each clean outside (t := t)
  exact ⟨keys, ending, stop, course, (run_iterate ready count visit w t).trans run, clean',
    reports.congr holds_sharded_iff, nofun⟩

/-- Without failures of stores, a sweep ends well or is stopped. -/
theorem backFailures_of_unfailing {υ : Type} {accounts : List (Account υ)}
    (unfailing : ∀ account ∈ accounts, account.ending = .finished (.ok ()) ∨
      ∃ e, account.ending = .stopped e) (start : Nat) : backFailures start accounts = [] := by
  induction accounts generalizing start with
  | nil => rfl
  | cons account later ih =>
    rw [backFailures_cons, ih (fun account member =>
      unfailing account (List.mem_cons_of_mem _ member))]
    obtain ended | ⟨e, ended⟩ := unfailing account List.mem_cons_self
    · rw [ended]
      rfl
    · rw [ended]
      rfl

theorem nodup_eraseDups (keys : List Bytes) : keys.eraseDups.Nodup := by
  match keys with
  | [] => exact List.nodup_nil
  | key :: rest =>
    rw [List.eraseDups_cons, List.nodup_cons]
    refine ⟨?_, nodup_eraseDups (rest.filter fun other => !other == key)⟩
    intro member
    simpa using (List.mem_filter.mp (List.mem_eraseDups.mp member)).2
termination_by keys.length
decreasing_by exact Nat.lt_succ_of_le (List.length_filter_le _ rest)

section Redundant

variable {policy : ReplicaPolicy} {backs : List Store} {token : Ref .token} {cell : Ref .memory}

theorem part_redundant : (ofAll backs).Part
    (of (.redundant policy backs (.offloaded token) (.memory cell))) where
  leaf h := by
    obtain ⟨s, member, h⟩ := h
    exact .redundant member h
  marks h := by
    obtain ⟨s, member, h⟩ := h
    exact .copy member h
  tokens h := by
    obtain ⟨s, member, h⟩ := h
    exact .copy member h

/-- What a redundant store may do while it sweeps copies that do not use its own marks. -/
theorem bounds_redundant (marks : ¬ (ofAll backs).marks cell)
    (tokens : ¬ (ofAll backs).tokens token) :
    SweepBounds cell token (ofAll backs).Quiet
      (of (.redundant policy backs (.offloaded token) (.memory cell))).Quiet where
  refl := Only.refl
  trans _ _ _ := Only.trans
  lift _ _ := part_redundant.quiet
  marks _ _ h := ⟨h.entries cell marks, h.current token tokens⟩
  mark w key := Only.mark .own w token key
  tidied w := Only.tidied .own .own w

theorem showsHeld_redundant
    (apart : (of (.redundant policy backs (.offloaded token) (.memory cell))).Apart)
    (leaf : ∀ s ∈ backs, ¬ Leaf s cell) (marks : ∀ s ∈ backs, ¬ Marks s cell)
    (tokens : ∀ s ∈ backs, ¬ Tokens s token) (each : ∀ s ∈ backs, ShowsHeld s) :
    ShowsHeld (.redundant policy backs (.offloaded token) (.memory cell)) := by
  intro τ visit w t clean outside
  have part : (ofAll backs).Part
      (of (.redundant policy backs (.offloaded token) (.memory cell))) := part_redundant
  have foreign : ¬ (ofAll backs).leaf cell ∧ ¬ (ofAll backs).marks cell :=
    ⟨fun ⟨s, member, h⟩ => leaf s member h, fun ⟨s, member, h⟩ => marks s member h⟩
  have bounds : SweepBounds cell token (ofAll backs).Quiet
      (of (.redundant policy backs (.offloaded token) (.memory cell))).Quiet :=
    bounds_redundant foreign.2 fun ⟨s, member, h⟩ => tokens s member h
  have spared : ∀ key, Leaves (SameMarks cell token) (visit key) := fun key s =>
    ⟨(outside key s).entries cell fun h => h.2 .own, (outside key s).current token fun h => h .own⟩
  have once : ∀ key, Leaves (ofAll backs).Outside
      (Storage.visitOnce (.memory cell) (.offloaded token) visit key) := fun key =>
    leaves_visitOnce Only.refl (fun _ _ _ => Only.trans)
      (fun w => Only.mark foreign w token key) fun s => part.outside (outside key s)
  obtain ⟨accounts, final, swept, clean', unfailing, sound, whole⟩ :=
    sweeps_held (fun s member => part_ofAll member)
      (fun cell h h' => apart cell (part.marks h) (part.leaf h')) each (clean.part part) once
      (t := t)
  obtain ⟨run, course⟩ := swept.run_keys bounds spared (.of_empty (clean cell .own)) policy
  rw [backFailures_of_unfailing unfailing] at run course
  have reports : Reports (fun key => ∃ s ∈ backs, (of s).Holds w key)
      (accounts.flatMap (·.keys)).eraseDups (.closing (.ok ()) (haltedBy accounts)) := by
    refine ⟨Ending.closing_unfailing _, ?_, ?_⟩
    · intro key member
      obtain ⟨account, member, shown⟩ := List.mem_flatMap.mp (List.mem_eraseDups.mp member)
      exact sound account member key shown
    · intro ended key holds
      obtain ⟨s, member, held⟩ := holds
      have unhalted : haltedBy accounts = none := by
        cases halted : haltedBy accounts with
        | none => rfl
        | some e =>
          rw [halted] at ended
          cases ended
      obtain ⟨account, member, shown⟩ := whole unhalted s member key held
      exact List.mem_eraseDups.mpr (List.mem_flatMap.mpr ⟨account, member, shown⟩)
  refine ⟨_, _, _, course, run, ?_, reports.congr holds_redundant_iff, fun _ => nodup_eraseDups _⟩
  intro cell' h
  rw [World.entries_tidied]
  by_cases same : cell' = cell
  · rw [if_pos same]
  · rw [if_neg same]
    cases h with
    | copy member h => exact clean' cell' ⟨_, member, h⟩
    | own => exact absurd rfl same

end Redundant

/-- A graph whose dedups are private shows what its leaves hold. -/
theorem showsHeld {s : Store} (wired : Wired s) (priv : Private s) (apart : (of s).Apart) :
    ShowsHeld s := by
  induction wired with
  | memory cell => exact showsHeld_memory cell
  | @sharded pool stock ready count some below ih =>
    cases priv with
    | sharded priv =>
      refine showsHeld_sharded ready count apart fun s member => ih s member (priv s member) ?_
      exact fun cell h h' => apart cell (.sharded member h) (.sharded member h')
  | @redundant demand backs dedup offload some few below ih =>
    cases priv with
    | redundant priv leaf marks tokens =>
      refine showsHeld_redundant apart leaf marks tokens fun s member =>
        ih s member (priv s member) ?_
      exact fun cell h h' => apart cell (.copy member h) (.redundant member h')

end Store

end StoreGraph
