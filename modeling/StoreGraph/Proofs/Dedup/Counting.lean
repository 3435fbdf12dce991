import StoreGraph.Proofs.Dedup.Alignment

/-! # Counting what was dropped

A naive dedup counts the keys that it drops. It counts them when it has dropped all that it meant
to, so the keys that an eviction dropped before it got stuck are never counted
(`dropped_key_not_counted`). Over any store, and whatever the store refuses, the counter grows by
exactly the keys that were dropped by the saves that succeeded (`counted_unless_stuck`).
-/

namespace StoreGraph

section Entries

variable {entries : SortedMap Bytes Bytes} {n : Nat}

theorem mem_order {key : Bytes} : key ∈ order entries ↔ entries.contains key = true := by
  rw [contains_iff_mem_order, decide_eq_true_iff]

theorem keys_perm_order (entries : SortedMap Bytes Bytes) :
    entries.keys.Perm (order entries) := by
  apply (List.perm_ext_iff_of_nodup entries.keys_nodup (keys_aged_nodup entries)).mpr
  intro key
  rw [SortedMap.mem_keys_iff, ← mem_order, order]

/-- What is in the front part of a list without repetition is not in the rest. -/
theorem filter_not_mem_drop {l : List Bytes} (nodup : l.Nodup) (n : Nat) :
    l.filter (fun key => decide (key ∉ l.drop n)) = l.take n := by
  have apart : (l.take n).Disjoint (l.drop n) := List.disjoint_take_drop nodup (Nat.le_refl n)
  calc l.filter (fun key => decide (key ∉ l.drop n))
      = (l.take n ++ l.drop n).filter (fun key => decide (key ∉ l.drop n)) := by
        rw [List.take_append_drop]
    _ = l.take n ++ [] := by
        rw [List.filter_append]
        congr 1
        · apply List.filter_eq_self.mpr
          intro key front
          exact decide_eq_true fun back => apart front back
        · apply List.filter_eq_nil_iff.mpr
          intro key back
          simpa using back
    _ = l.take n := List.append_nil _

/-- Dropping a number of keys takes so many away. -/
theorem length_dropped (enough : n ≤ (aged entries).length) :
    (entries.keys.filter fun key => !(withoutOldest n entries).contains key).length = n := by
  have left : order (withoutOldest n entries) = (order entries).drop n := by
    rw [order, aged_withoutOldest, List.map_drop, order]
  have gone : ∀ key, (!(withoutOldest n entries).contains key) =
      decide (key ∉ (order entries).drop n) := by
    intro key
    rw [contains_iff_mem_order, left, decide_not]
  have taken := ((keys_perm_order entries).filter fun key =>
    decide (key ∉ (order entries).drop n)).length_eq
  have distinct : (order entries).Nodup := keys_aged_nodup entries
  have length : (order entries).length = (aged entries).length := List.length_map _
  simp only [gone]
  rw [taken, filter_not_mem_drop distinct, List.length_take]
  omega

end Entries

namespace DedupScheme

namespace Turn

variable (turn : Turn) (p : PlainStore) (ages : Ref .ages)

/-- What the store holds before any key is dropped: the key is stored, unless it is refused. -/
def held : SortedMap Bytes Bytes :=
  if (turn.refusal? p ages).isNone then turn.stored p ages else p.entries turn.before

/-- The keys that the save has dropped. -/
def dropped : List Bytes :=
  (turn.held p ages).keys.filter fun key => !(p.entries turn.after).contains key

/-- The keys are counted that were dropped by a save that succeeds. -/
structure Counted : Prop where
  counter : turn.after.counters.dedupEvictions = turn.before.counters.dedupEvictions +
    if turn.answer.isOk then (turn.dropped p ages).length else 0
  /-- A key that is refused takes no other key's place. -/
  refused : (turn.refusal? p ages).isSome → turn.dropped p ages = []

end Turn

/-- Save one key after the other, whatever becomes of each. -/
def savings (p : PlainStore) (maxKeys cleanFactor : Nat) (ages : Ref .ages) :
    List Bytes → World → List Turn
  | [], _ => []
  | key :: rest, w =>
    let turn := saving p maxKeys cleanFactor ages key w
    turn :: savings p maxKeys cleanFactor ages rest turn.after

/-- The world after a list of saves. -/
def afterSavings (p : PlainStore) (maxKeys cleanFactor : Nat) (ages : Ref .ages) (keys : List Bytes)
    (w : World) : World :=
  keys.foldl (fun w key => (saving p maxKeys cleanFactor ages key w).after) w

/-- How many keys were dropped in some saves. -/
def droppedIn (p : PlainStore) (ages : Ref .ages) (turns : List Turn) : Nat :=
  (turns.flatMap fun turn => turn.dropped p ages).length

section Steps

variable {p : PlainStore} {ages : Ref .ages} {w : World} {key : Bytes}

theorem countless_write (p : PlainStore) (write : Write) :
    Moves (fun w w' => w'.counters = w.counters) (write.run p.store) := by
  intro w
  cases p.attempts write w with
  | done run _ _ _ rest => rw [stateAfter_ok run, rest]
  | refused run _ looks => rw [stateAfter_error run, looks.rest]

/-- Dropping keys does not count them yet. -/
theorem countless_dropOldest (p : PlainStore) (ages : Ref .ages) (n : Nat) :
    Moves (fun w w' => w'.counters = w.counters) (dropOldest ages p.store.storage n) := by
  have frame := frame_same World.counters
  induction n with
  | zero => exact .pure frame 0
  | succ n ih =>
    apply Moves.bind frame (fun _ => rfl)
    intro known
    split
    · exact .pure frame 0
    · rename_i oldest _
      apply Moves.bind frame (countless_write p (.del oldest.2))
      intro _
      apply Moves.bind frame (fun _ => rfl)
      intro _
      exact .bind frame ih fun _ => .pure frame _

/-- Nothing is gone where nothing was dropped. -/
theorem dropped_eq_nil {turn : Turn} (same : p.entries turn.after = turn.held p ages) :
    turn.dropped p ages = [] := by
  apply List.filter_eq_nil_iff.mpr
  intro key listed
  rw [same, (turn.held p ages).mem_keys_iff.mp listed]
  decide

/-- A save that is not refused stores the key and its age, and goes on to drop others if there are
    too many. -/
theorem run_save_accepted (limits : KeepLimits) (tracks : Tracks (p.entries w) (w.ages.get ages))
    {w₁ : World} (put : (p.store.put key (marker ages w)).run w = .ok () w₁)
    (entries : p.entries w₁ = (p.entries w).insert key (marker ages w))
    (rest : w₁ = { w with memories := w₁.memories, probes := w₁.probes }) :
    ∃ w₂, p.entries w₂ = (p.entries w).insert key (marker ages w) ∧
      Tracks (p.entries w₂) (w₂.ages.get ages) ∧ w₂.counters = w.counters ∧
      (save p.store.storage key (.naive ages limits)).run w =
        (if limits.threshold ≤ (w₂.ages.get ages).size then evict ages limits p.store.storage
          else pure ()).run w₂ := by
  let note (known : KeyAges) : KeyAges :=
    { known.insert key (w.ages.get ages).next with next := (w.ages.get ages).next + 1 }
  let w₂ := w₁.changeAges ages note
  obtain ⟨-, kept⟩ : p.Works w₁ w₂ ∧ p.entries w₂ = p.entries w₁ := p.works_of_same rfl rfl
  have same : p.entries w₂ = (p.entries w).insert key (marker ages w) := kept.trans entries
  have known : w₂.ages.get ages = note (w.ages.get ages) := by rw [World.ages_changeAges, rest]
  have counters : w₁.counters = w.counters := by rw [rest]
  refine ⟨w₂, same, ?_, counters, ?_⟩
  · obtain ⟨coherent, sequences⟩ := tracks.insert key (w.ages.get ages).next
    rw [same, known]
    exact ⟨coherent, sequences⟩
  · have stored : (p.store.storage.put key (Word.toBytes (w.ages.get ages).next)).run w =
      .ok () w₁ := put
    simp only [save, EStateM.run_bind, run_readAges, stored, run_updateAges]
    rfl

/-- What an eviction drops is counted if it drops all that it means to, and only then. -/
theorem counted_evict (tracks : Tracks (p.entries w) (w.ages.get ages)) (limits : KeepLimits) :
    let gone (w' : World) := (p.entries w).keys.filter fun key => !(p.entries w').contains key
    let evicts := evict ages limits p.store.storage
    let after := stateAfter evicts w
    Tracks (p.entries after) (after.ages.get ages) ∧
      after.counters.dedupEvictions = w.counters.dedupEvictions +
        if (outcome evicts w).isOk then (gone after).length else 0 := by
  intro gone evicts after
  have enough : (w.ages.get ages).size - limits.maxKeys ≤ (aged (p.entries w)).length := by
    rw [tracks.size]
    exact Nat.sub_le _ _
  have run := run_evict p ages limits w
  have countless := countless_dropOldest p ages ((w.ages.get ages).size - limits.maxKeys)
  generalize (w.ages.get ages).size - limits.maxKeys = n at enough run countless
  cases drops_dropOldest n tracks enough with
  | @all w₁ drop dropped =>
    rw [drop] at run
    have answer : outcome evicts w = .ok () := outcome_ok run
    have same : after = w₁.countEvicted ages n := stateAfter_ok run
    obtain ⟨-, kept⟩ : p.Works w₁ (w₁.countEvicted ages n) ∧
        p.entries (w₁.countEvicted ages n) = p.entries w₁ := p.works_of_same rfl rfl
    have left : p.entries after = withoutOldest n (p.entries w) := by
      rw [same, kept, dropped.entries]
    refine ⟨?_, ?_⟩
    · rw [left, ← dropped.entries, same]
      exact dropped.tracks
    · have counters : w₁.counters = w.counters := countless.of_ok drop
      have many : (gone after).length = n := by
        simp only [gone, left]
        exact length_dropped enough
      rw [answer, many, same, ← counters]
      rfl
  | @stuck w₁ e m drop _ _ dropped =>
    rw [drop] at run
    have answer : outcome evicts w = .error e := outcome_error run
    have same : after = w₁ := stateAfter_error run
    refine ⟨same ▸ dropped.tracks, ?_⟩
    rw [answer, same, countless.of_error drop]
    rfl

/-- A save counts what it drops, unless it gets stuck. Numbers may run out: that has to do with
    which keys are the oldest, not with how many are dropped. -/
theorem counted_saving (tracks : Tracks (p.entries w) (w.ages.get ages)) (key : Bytes)
    (maxKeys cleanFactor : Nat) :
    let turn := saving p maxKeys cleanFactor ages key w
    Tracks (p.entries turn.after) (turn.after.ages.get ages) ∧ turn.Counted p ages := by
  intro turn
  cases p.attempts (.put key (marker ages w)) w with
  | @refused w₁ e run refusal looks =>
    have put : (p.store.storage.put key (Word.toBytes (w.ages.get ages).next)).run w =
      .error e w₁ := run
    have stopped : (save p.store.storage key (.naive ages ⟨maxKeys, maxKeys * cleanFactor⟩)).run w =
        .error e w₁ := by
      simp only [save, EStateM.run_bind, run_readAges, put]
    have answer : turn.answer = .error e := outcome_error stopped
    have after : turn.after = w₁ := stateAfter_error stopped
    have refused : turn.refusal? p ages = some e := refusal
    have none : turn.dropped p ages = [] := by
      apply dropped_eq_nil
      rw [Turn.held, refused, after, looks.entries]
      rfl
    refine ⟨?_, ⟨?_, fun _ => none⟩⟩
    · rw [after, looks.entries, looks.rest]
      exact tracks
    · rw [answer, after, looks.rest]
      rfl
  | @done w₁ run accepted works entries rest =>
    have accepted : turn.refusal? p ages = none := accepted
    obtain ⟨w₂, same, tracks₂, counters, saved⟩ :=
      run_save_accepted ⟨maxKeys, maxKeys * cleanFactor⟩ tracks run entries rest
    have held : turn.held p ages = p.entries w₂ := by
      rw [Turn.held, accepted, same]
      rfl
    have noRefusal : (turn.refusal? p ages).isSome → turn.dropped p ages = [] := by
      intro refused
      rw [accepted] at refused
      cases refused
    split at saved
    · obtain ⟨tracked, counted⟩ := counted_evict tracks₂ ⟨maxKeys, maxKeys * cleanFactor⟩
      have answer : turn.answer = outcome (evict ages ⟨maxKeys, _⟩ p.store.storage) w₂ :=
        outcome_congr saved
      have after : turn.after = stateAfter (evict ages ⟨maxKeys, _⟩ p.store.storage) w₂ :=
        stateAfter_congr saved
      refine ⟨after ▸ tracked, ⟨?_, noRefusal⟩⟩
      rw [answer, Turn.dropped, held, after, counted, counters]
      rfl
    · have answer : turn.answer = .ok () := outcome_ok saved
      have after : turn.after = w₂ := stateAfter_ok saved
      have none : turn.dropped p ages = [] := dropped_eq_nil (by rw [after, held])
      refine ⟨after ▸ tracks₂, ⟨?_, noRefusal⟩⟩
      rw [none, after, counters, answer]
      rfl

end Steps

section Runs

variable {p : PlainStore} {ages : Ref .ages} {maxKeys cleanFactor : Nat} {w start : World}

/-- Every save of a run counts what it drops, unless it gets stuck. -/
theorem counted_savings (tracks : Tracks (p.entries w) (w.ages.get ages)) (keys : List Bytes) :
    let turns := savings p maxKeys cleanFactor ages keys w
    (∀ turn ∈ turns, turn.Counted p ages) ∧
      (afterSavings p maxKeys cleanFactor ages keys w).counters.dedupEvictions =
        w.counters.dedupEvictions + droppedIn p ages (turns.filter (·.answer.isOk)) := by
  induction keys generalizing w with
  | nil => exact ⟨nofun, rfl⟩
  | cons key rest ih =>
    obtain ⟨tracked, counted⟩ := counted_saving tracks key maxKeys cleanFactor
    obtain ⟨later, total⟩ := ih tracked
    refine ⟨List.forall_mem_cons.mpr ⟨counted, later⟩, ?_⟩
    have counter := counted.counter
    have step : afterSavings p maxKeys cleanFactor ages (key :: rest) w =
      afterSavings p maxKeys cleanFactor ages rest
        (saving p maxKeys cleanFactor ages key w).after := rfl
    rw [step, total, counter, savings, List.filter_cons, Nat.add_assoc]
    congr 1
    split
    · simp [droppedIn]
    · simp

theorem droppedIn_eq_add (turns : List Turn) :
    droppedIn p ages turns = droppedIn p ages (turns.filter (·.answer.isOk)) +
      droppedIn p ages (turns.filter fun turn => !turn.answer.isOk) := by
  induction turns with
  | nil => rfl
  | cons turn rest ih =>
    simp only [droppedIn, List.flatMap_cons, List.length_append] at ih ⊢
    cases ended : turn.answer.isOk with
    | true => simp [ended, ih, Nat.add_assoc]
    | false => simp [ended, ih, Nat.add_left_comm]

theorem droppedIn_eq_zero_iff {turns : List Turn} :
    droppedIn p ages turns = 0 ↔ ∀ turn ∈ turns, turn.dropped p ages = [] := by
  rw [droppedIn, List.length_eq_zero_iff, List.flatMap_eq_nil_iff]

/-- The counter of a naive dedup, over a store that may refuse any write. In a run that opens the
    dedup and saves one key after the other, it grows by the number of keys that were dropped by the
    saves that succeeded. A save that failed after its key was stored may have dropped keys, too; no
    one counts these. So the counter is exact if and only if every save that failed has dropped
    nothing, as one does whose key was refused. -/
theorem counted_unless_stuck (serving : p.Serving w)
    (opened : (Dedup.newNaive p.store maxKeys cleanFactor).run w =
      .ok ⟨.naive ages ⟨maxKeys, maxKeys * cleanFactor⟩, p.store⟩ start) (keys : List Bytes) :
    let turns := savings p maxKeys cleanFactor ages keys start
    let stop := afterSavings p maxKeys cleanFactor ages keys start
    let failed := turns.filter fun turn => !turn.answer.isOk
    stop.counters.dedupEvictions =
        start.counters.dedupEvictions + droppedIn p ages (turns.filter (·.answer.isOk)) ∧
      start.counters.dedupEvictions + droppedIn p ages turns =
        stop.counters.dedupEvictions + droppedIn p ages failed ∧
      (stop.counters.dedupEvictions = start.counters.dedupEvictions + droppedIn p ages turns ↔
        ∀ turn ∈ failed, turn.dropped p ages = []) ∧
      ∀ turn ∈ turns, (turn.refusal? p ages).isSome → turn.dropped p ages = [] := by
  intro turns stop failed
  obtain ⟨ages', start', number, run, -, -, tracks, -⟩ := opens_tracking (.of_run opened) serving
  rw [opened] at run
  cases run
  obtain ⟨counted, total⟩ : (∀ turn ∈ turns, turn.Counted p ages) ∧
      stop.counters.dedupEvictions =
        start.counters.dedupEvictions + droppedIn p ages (turns.filter (·.answer.isOk)) :=
    counted_savings tracks keys
  have split : droppedIn p ages turns =
      droppedIn p ages (turns.filter (·.answer.isOk)) + droppedIn p ages failed :=
    droppedIn_eq_add turns
  refine ⟨total, by omega, ?_, fun turn listed => (counted turn listed).refused⟩
  rw [← droppedIn_eq_zero_iff]
  omega

end Runs

/-! ## Runs on fixed inputs -/

/-- A probe with fault rules, and nothing else. -/
def ruledWorld (rules : List FaultRule) : World :=
  World.ruled { randomness := fun _ => 0 } ⟨0⟩ rules

/-- A dedup that was just opened on the probe; once there are three keys, it keeps one. -/
def openedUnder (rules : List FaultRule) : World :=
  stateAfter (Dedup.newNaive (.probe ⟨0⟩ {}) 1 3) (ruledWorld rules)

/-- The second of two keys in excess is not dropped, and the first one is not counted. -/
theorem dropped_key_not_counted :
    let rules := refusing .del 1
    let turns := savings (.probe ⟨0⟩ {}) 1 3 ⟨0⟩ [[1], [2], [3]] (openedUnder rules)
    let stop := afterSavings (.probe ⟨0⟩ {}) 1 3 ⟨0⟩ [[1], [2], [3]] (openedUnder rules)
    (PlainStore.probe ⟨0⟩ {}).Serving (ruledWorld rules) ∧
    (Dedup.newNaive (.probe ⟨0⟩ {}) 1 3).run (ruledWorld rules) =
      .ok ⟨.naive ⟨0⟩ ⟨1, 3⟩, .probe ⟨0⟩ {}⟩ (openedUnder rules) ∧
    turns.map (·.answer) = [.ok (), .ok (), .error (.backend "io")] ∧
    turns.map (·.dropped (.probe ⟨0⟩ {}) ⟨0⟩) = [[], [], [[1]]] ∧
    (openedUnder rules).counters.dedupEvictions = 0 ∧ stop.counters.dedupEvictions = 0 ∧
    stop.counters.dedupEvictions ≠ (openedUnder rules).counters.dedupEvictions +
      droppedIn (.probe ⟨0⟩ {}) ⟨0⟩ turns := by
  exact ⟨by decide, rfl, rfl, by decide +kernel, rfl, by decide +kernel, by decide +kernel⟩

/-- Of two saves that fail, one has dropped a key. A later one drops two more, which are counted. -/
theorem counted_unless_stuck_once :
    let rules : List FaultRule :=
      [{ op := .del, skip := 1, times := some 1, error := .backend "io" },
        { op := .put, skip := 3, times := some 1, error := .backend "io" }]
    let keys : List Bytes := [[1], [2], [3], [4], [5]]
    let turns := savings (.probe ⟨0⟩ {}) 1 3 ⟨0⟩ keys (openedUnder rules)
    let stop := afterSavings (.probe ⟨0⟩ {}) 1 3 ⟨0⟩ keys (openedUnder rules)
    let failed := turns.filter fun turn => !turn.answer.isOk
    (PlainStore.probe ⟨0⟩ {}).Serving (ruledWorld rules) ∧
    (Dedup.newNaive (.probe ⟨0⟩ {}) 1 3).run (ruledWorld rules) =
      .ok ⟨.naive ⟨0⟩ ⟨1, 3⟩, .probe ⟨0⟩ {}⟩ (openedUnder rules) ∧
    turns.map (·.dropped (.probe ⟨0⟩ {}) ⟨0⟩) = [[], [], [[1]], [], [[2], [3]]] ∧
    failed.map (·.key) = [[3], [4]] ∧
    stop.counters.dedupEvictions = 2 ∧
    (openedUnder rules).counters.dedupEvictions + droppedIn (.probe ⟨0⟩ {}) ⟨0⟩ turns =
      stop.counters.dedupEvictions + droppedIn (.probe ⟨0⟩ {}) ⟨0⟩ failed := by
  intro rules keys turns stop failed
  have serving : (PlainStore.probe ⟨0⟩ {}).Serving (ruledWorld rules) := by decide
  have opened : (Dedup.newNaive (.probe ⟨0⟩ {}) 1 3).run (ruledWorld rules) =
      .ok ⟨.naive ⟨0⟩ ⟨1, 3⟩, .probe ⟨0⟩ {}⟩ (openedUnder rules) := rfl
  have counted := counted_unless_stuck serving opened keys
  refine ⟨serving, opened, by decide +kernel, by decide +kernel, by decide +kernel, ?_⟩
  -- The names are given up, lest the sums be computed to see that they are the same.
  simp only [failed, stop, turns]
  exact counted.2.1

end DedupScheme

end StoreGraph
