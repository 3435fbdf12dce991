import StoreGraph.Proofs.Graph.Minting

/-! # Enumerating graphs that share dedup stores

Several redundant stores of one graph, also nested ones, may remember keys in one dedup store. An
enumeration of a redundant graph still shows every key of the map that the graph is, and shows none
twice if the dedup store of the root is its own (`shared_dedups_show_all`). If a store below shares
it then the root's marks are erased while they are needed, and keys are shown again
(`shared_dedup_shows_twice`).
-/

namespace StoreGraph

open Store Footprint

/-- The leaves, the cells in which keys are remembered and the tokens are as they were. Words may
    have been drawn for other purposes. -/
structure Aside (s : Store) (w w' : World) : Prop where
  data : SameData s w w'
  scratch : ∀ cell, Scratch s cell → SameEntries cell w w'
  tokens : ∀ token, Tokens s token → w'.tokens.get token = w.tokens.get token
  drawn : w.drawn ≤ w'.drawn
  source : w'.randomness = w.randomness

/-- No enumeration is under way: no key is marked with a token. -/
structure Rested (s : Store) (words : Nat → UInt64) (w : World) : Prop where
  settled : Settled s words w
  idle : Idle s (Tokens s) w

section Runs

variable {s : Store} {words : Nat → UInt64} {bound : Nat} {cells : Ref .memory → Prop}
  {start now w w' : World} {m : Bytes → Option Bytes}

theorem Aside.spares (aside : Aside s w w') : Spares s words bound (Tokens s) (Leaf s) w w' :=
  spares_of_same aside.drawn aside.source aside.tokens aside.scratch (fun _ => id) aside.data

/-- A write to the leaves spares all tokens. -/
theorem spares_wrote {key : Bytes} {value : Option Bytes} (arranged : Arranged s)
    (epochs : SameEpochs w w') (wrote : Wrote (LeafFor key s) key value w w') :
    Spares s words bound (Tokens s) (fun _ => False) w w' := by
  refine spares_of_same (Nat.le_of_eq epochs.drawn.symm) epochs.randomness ?_ ?_ (fun _ => id) nofun
  · intro token _
    rw [epochs.tokens]
  · intro cell scratch
    apply SortedMap.ext_get?
    exact fun key' => wrote.kept cell key' fun here => arranged.apart scratch here.1.leaf

theorem Rested.spared (rested : Rested s words w)
    (spared : Spares s words bound (Tokens s) cells w w') (within : w'.drawn ≤ bound) :
    Rested s words w' :=
  ⟨spared.settled within rested.settled,
    fun _ own => spared.noted within rested.settled own (rested.idle own)⟩

/-- Every run leads from rest to rest, as long as no word was drawn twice. -/
theorem Used.rested (arranged : Arranged s) (wired : s.Wired)
    (distinct : ∀ i j, i < j → j < bound → words i ≠ words j)
    (used : Used (Aside s) s start now m) :
    start.drawn ≤ now.drawn ∧
      (now.drawn ≤ bound → Rested s words start → Rested s words now) := by
  have write : ∀ {w w' key value}, SameEpochs w w' → Wrote (LeafFor key s) key value w w' →
      start.drawn ≤ w.drawn ∧ (w.drawn ≤ bound → Rested s words start → Rested s words w) →
      start.drawn ≤ w'.drawn ∧
        (w'.drawn ≤ bound → Rested s words start → Rested s words w') := by
    intro w w' key value epochs wrote before
    rw [epochs.drawn]
    refine ⟨before.1, fun within begins => ?_⟩
    exact (before.2 within begins).spared (spares_wrote arranged epochs wrote)
      (Nat.le_trans (Nat.le_of_eq epochs.drawn) within)
  induction used with
  | fresh => exact ⟨Nat.le_refl _, fun _ => id⟩
  | @put w m key value before ih =>
    obtain ⟨w', run, wrote⟩ := writes_put wired key value w
    rw [stateAfter_ok run]
    exact write ((put_sameEpochs wired key value).of_ok run) wrote ih
  | @get w m key before ih =>
    rw [reads_nothing wired key w]
    exact ih
  | @del w m key before ih =>
    obtain ⟨w', run, wrote⟩ := writes_del wired key w
    rw [stateAfter_ok run]
    exact write ((del_sameEpochs wired key).of_ok run) wrote ih
  | @keys w m τ visit t before visits ih =>
    have spares : ∀ key, Leaves (Spares s words bound (Tokens s) (Leaf s)) (visit key) :=
      fun key state => (visits key state).spares
    obtain ⟨keys, ending, stop, course, run, -, all⟩ :=
      shows_all arranged distinct wired (.refl s) visit w t spares
    have spared := spares_course arranged (.refl s) (fun _ => id) spares course
    rw [Ending.stateAfter_of_run run]
    refine ⟨Nat.le_trans ih.1 spared.drawn, fun within begins => ?_⟩
    have rested := ih.2 (Nat.le_trans spared.drawn within) begins
    obtain ⟨settled, idle, -⟩ := all within rested.settled rested.idle
    exact ⟨settled, idle⟩

end Runs

namespace Resolver

/-- The dedup store that the entry's record names shares no leaf with a dedup store that is named by
    a record below it. -/
def DedupAlone (r : Resolver) (records : SortedMap Bytes Bytes) (entry : Bytes) : Prop :=
  ∀ {record name id record' name' leaf url}, r.described records entry = some (.redundant record) →
    record.dedupRef? = some name → r.HeldBy records entry id → id ≠ entry →
    r.described records id = some (.redundant record') → record'.dedupRef? = some name' →
    r.HeldBy records (Bytes.ofText name) leaf → r.described records leaf = some (.simple url) →
    ¬ r.HeldBy records (Bytes.ofText name') leaf

variable {r : Resolver} {bootstrap : Store} {records : SortedMap Bytes Bytes}
  {keep : World → Prop} {entry : Bytes} {built : Built} {s : Store} {w start now : World}
  {m : Bytes → Option Bytes}

/-- The stores below the root remember nothing in its dedup store. -/
theorem DedupAlone.foreign (alone : r.DedupAlone records entry)
    (accords : r.Accords records built w) {policy : ReplicaPolicy} {backs : List Store}
    {dedup : DedupScheme} {offload : Store}
    (found : built.get? entry = some (.redundant policy backs dedup offload)) :
    ∀ s ∈ backs, ∀ cell, Leaf offload cell → ¬ Scratch s cell := by
  intro s member cell leaf scratch
  obtain ⟨token', offload', ⟨policy', backs', spans⟩, leaf'⟩ := scratch
  obtain ⟨id, path, found'⟩ := spans_described accords found (.redundant member spans)
  have below : id ≠ entry := by
    rintro rfl
    rw [found] at found'
    cases found'
    exact not_spans_of_copy member spans
  obtain ⟨record, described, named, unnamed⟩ := described_redundant accords found
  obtain ⟨record', described', named', unnamed'⟩ := described_redundant accords found'
  cases own : record.dedupRef? with
  | none =>
    cases other : record'.dedupRef? with
    | none =>
      obtain ⟨cell₁, rfl⟩ := unnamed own
      obtain ⟨cell₂, rfl⟩ := unnamed' other
      cases leaf
      cases leaf'
      exact below (accords.cells.sole found' found (.unnamed described' other)
        (.unnamed described own))
    | some name' => exact unnamed_apart accords found described own (named' name' other) leaf leaf'
  | some name =>
    cases other : record'.dedupRef? with
    | none => exact unnamed_apart accords found' described' other (named name own) leaf' leaf
    | some name' =>
      obtain ⟨ref, url, led, led', simple⟩ :=
        shared_leaf accords (named name own) (named' name' other) leaf leaf'
      exact alone described own path below described' other led simple led'

/-- Whatever dedup stores are shared, enumerating a redundant graph shows every key of its map, and
    no key twice if the dedup store of the root is its own. No word may be drawn twice as a token.
    The visitor may do anything but write to the leaves and dedup stores of the graph. -/
theorem shared_dedups_show_all (backed : OverMemory r bootstrap records keep entry) (kept : keep w)
    (calm : ∀ id, Moves SameEpochs (bootstrap.get id))
    (resolved : (r.resolve entry bootstrap).run w = .ok s start) {record : RedundantRecord}
    (redundant : r.described records entry = some (.redundant record))
    (apart : r.DedupsApart records entry) (used : Used (Aside s) s start now m) {τ : Type}
    (visit : Bytes → VisitM τ Unit) (t : τ) (visits : ∀ key, Leaves (Aside s) (visit key))
    (distinct : ∀ i j, i < j → j < (stateAfter (s.keys visit) (now, t)).1.drawn →
      w.randomness i ≠ w.randomness j) :
    ∃ keys ending stop,
      Shows (fun w w' => ∀ cell, ¬ Scratch s cell → SameEntries cell w w') visit (now, t) keys
        ending stop ∧
      (s.keys visit).run (now, t) = ending.result stop ∧
      Reports (fun key => m key ≠ none) keys ending ∧
      ((∀ key s, ∃ s', (visit key).run s = .ok () s') → ending = .finished (.ok ())) ∧
      (r.DedupAlone records entry → keys.Nodup) := by
  obtain ⟨built, accords, placed, minted, found⟩ := resolve_minted backed kept calm resolved
  have arranged : Arranged s := arranged_of_built accords placed apart found
  have wired : Wired s := placed.wired ⟨entry, found⟩
  have spares : ∀ key, Leaves (Spares s w.randomness (stateAfter (s.keys visit) (now, t)).1.drawn
      (Tokens s) (Leaf s)) (visit key) := fun key state => (visits key state).spares
  have fresh : Represents False s start fun _ => none :=
    .fresh (placed.mono (by rintro _ rfl; exact ⟨entry, found⟩))
  have represents : Represents False s now m :=
    used.represents wired arranged.served arranged.apart (fun _ _ aside => aside.data) fresh
  obtain ⟨grown, rests⟩ := used.rested arranged wired distinct
  have rested : now.drawn ≤ (stateAfter (s.keys visit) (now, t)).1.drawn →
      Rested s w.randomness now := by
    intro within
    refine rests within ?_
    obtain ⟨settled, idle⟩ := settled_of_built accords minted found fun i j less early =>
      distinct i j less (Nat.lt_of_lt_of_le early (Nat.le_trans grown within))
    exact ⟨settled, idle⟩
  cases accords.describes found with
  | simple described =>
    rw [redundant] at described
    cases described
  | sharded described =>
    rw [redundant] at described
    cases described
  | @redundant record policy backs token offload =>
    have copies : ∀ b ∈ backs, Wired b := by
      cases wired with
      | redundant some few below => exact below
    have each : ∀ b ∈ backs, ShowsAll _ w.randomness _ b := fun b member =>
      shows_all arranged distinct (copies b member) (.redundant member (.refl b))
    obtain ⟨keys, ending, stop, course, run, ends, all⟩ :=
      shows_redundant arranged distinct (.refl _) each
        (fun alone : r.DedupAlone records entry => alone.foreign accords found) spares
        (fun _ key cell leaf state => (visits key state).scratch cell ⟨_, _, .own, leaf⟩) now t
    rw [Ending.stateAfter_of_run run] at all rested
    have spared := spares_course arranged (.refl _) (fun _ => id) spares course
    obtain ⟨settled, idle⟩ := rested spared.drawn
    obtain ⟨-, -, reports, once⟩ := all (Nat.le_refl _) settled idle
    refine ⟨keys, ending, stop, course.mono fun _ _ works cell other => works.entries other, run,
      ⟨reports.unfailing, ?_, ?_⟩, fun steady => ?_, once⟩
    · exact fun key member => (represents.holds_iff wired key).mp (reports.sound key member)
    · exact fun ended key live =>
        reports.whole ended key ((represents.holds_iff wired key).mpr live)
    · obtain ⟨outcome, finished⟩ := course.finishes steady
      obtain ended | ⟨e, stopped⟩ := ends
      · exact ended
      · rw [finished] at stopped
        cases stopped

/-- A resolver for redundant stores one below the other: for the empty record a memory backend, for
    the record `[1]` a store over `a` that remembers keys in `d`, and for any other record a store
    over `inner` and `b` that remembers keys in the store of a given name. -/
def nestedResolver (name : String) : Resolver where
  registry := .withDefaults
  decoder
    | [] => .ok (Record.simple "memory://").toJson
    | [1] => .ok (Record.redundant { storages := ["a"], dedup := some "d" }).toJson
    | _ => .ok (Record.redundant { storages := ["inner", "b"], dedup := some name }).toJson

def nestedRecords : SortedMap Bytes Bytes :=
  (((((SortedMap.empty.insert (Bytes.ofText "main") [2]).insert (Bytes.ofText "inner") [1]).insert
    (Bytes.ofText "a") []).insert (Bytes.ofText "b") []).insert (Bytes.ofText "d") []).insert
      (Bytes.ofText "e") []

def nestedWorld : World where
  randomness i := UInt64.ofNat i
  memories := { cells := SortedMap.empty.insert 0 { entries := nestedRecords }, next := 1 }

theorem described_nested (name : String) :
    (nestedResolver name).described nestedRecords (Bytes.ofText "main") =
        some (.redundant { storages := ["inner", "b"], dedup := some name }) ∧
      (nestedResolver name).described nestedRecords (Bytes.ofText "inner") =
        some (.redundant { storages := ["a"], dedup := some "d" }) ∧
      ∀ leaf ∈ ["a", "b", "d", "e"], (nestedResolver name).described nestedRecords
        (Bytes.ofText leaf) = some (.simple "memory://") := by
  refine ⟨by rfl, by rfl, ?_⟩
  simp only [List.forall_mem_cons]
  exact ⟨by rfl, by rfl, by rfl, by rfl, nofun⟩

theorem heldBy_nested {name : String} {id : Bytes}
    (path : (nestedResolver name).HeldBy nestedRecords (Bytes.ofText "main") id) :
    id = Bytes.ofText "main" ∨ id = Bytes.ofText "inner" ∨
      id = Bytes.ofText "a" ∨ id = Bytes.ofText "b" := by
  obtain ⟨main, inner, leaves⟩ := described_nested name
  induction path with
  | refl => exact .inl rfl
  | tail _ step ih =>
    obtain ⟨record, found, member⟩ := step
    obtain rfl | rfl | rfl | rfl := ih
    · rw [main] at found
      cases found
      simp only [Record.holders, List.map_cons, List.map_nil, List.mem_cons, List.not_mem_nil,
        or_false] at member
      obtain rfl | rfl := member
      · exact .inr (.inl rfl)
      · exact .inr (.inr (.inr rfl))
    · rw [inner] at found
      cases found
      exact .inr (.inr (.inl (by simpa [Record.holders] using member)))
    · rw [leaves "a" (by decide)] at found
      cases found
      exact absurd member List.not_mem_nil
    · rw [leaves "b" (by decide)] at found
      cases found
      exact absurd member List.not_mem_nil

theorem distinct_nested :
    ∀ j < 4, ∀ i < j, nestedWorld.randomness i ≠ nestedWorld.randomness j := by decide

section Nested

variable {name : String} (given : name = "d" ∨ name = "e")

include given

/-- The redundant stores of the graph and the names of their dedup stores. -/
theorem dedups_nested {id : Bytes} {record : RedundantRecord} {dedup : String}
    (path : (nestedResolver name).HeldBy nestedRecords (Bytes.ofText "main") id)
    (found : (nestedResolver name).described nestedRecords id = some (.redundant record))
    (named : record.dedupRef? = some dedup) :
    id = Bytes.ofText "main" ∧ dedup = name ∨ id = Bytes.ofText "inner" ∧ dedup = "d" := by
  obtain ⟨main, inner, leaves⟩ := described_nested name
  obtain rfl | rfl | rfl | rfl := heldBy_nested path
  · rw [main] at found
    cases found
    obtain rfl | rfl := given
    · cases named
      exact .inl ⟨rfl, rfl⟩
    · cases named
      exact .inl ⟨rfl, rfl⟩
  · rw [inner] at found
    cases found
    cases named
    exact .inr ⟨rfl, rfl⟩
  · rw [leaves "a" (by decide)] at found
    cases found
  · rw [leaves "b" (by decide)] at found
    cases found

theorem dedupsApart_nested :
    (nestedResolver name).DedupsApart nestedRecords (Bytes.ofText "main") := by
  obtain ⟨-, -, leaves⟩ := described_nested name
  intro id record dedup leaf url path found named led simple path'
  have marks : dedup = "d" ∨ dedup = "e" := by
    obtain ⟨-, rfl⟩ | ⟨-, rfl⟩ := dedups_nested given path found named
    · exact given
    · exact .inl rfl
  have data := heldBy_nested path'
  obtain rfl | rfl := marks
  · obtain rfl := led.eq_of_simple (leaves "d" (by decide))
    exact absurd data (by decide)
  · obtain rfl := led.eq_of_simple (leaves "e" (by decide))
    exact absurd data (by decide)

end Nested

theorem recorded_nested {name : String} {id : Bytes} {record : Record}
    (found : (nestedResolver name).described nestedRecords id = some record) :
    id ∈ ["a", "b", "d", "e", "inner", "main"].map Bytes.ofText := by
  have ids : nestedRecords.entries.map (·.1) =
      ["a", "b", "d", "e", "inner", "main"].map Bytes.ofText := by decide +kernel
  rw [← ids]
  unfold described at found
  cases held : nestedRecords.get? id with
  | none =>
    rw [held] at found
    cases found
  | some raw => exact List.mem_map_of_mem (f := (·.1)) ((SortedMap.mem_entries_iff _).mpr held)

theorem overMemory_nested (name : String) :
    OverMemory (nestedResolver name) (.memory ⟨0⟩) nestedRecords (Recorded ⟨0⟩ nestedRecords)
      (Bytes.ofText "main") := by
  obtain ⟨main, inner, leaves⟩ := described_nested name
  refine overMemory_recorded rfl fun {id url} _ found => ?_
  have memory : ∀ leaf ∈ ["a", "b", "d", "e"], id = Bytes.ofText leaf → MemoryUrl url := by
    rintro leaf member rfl
    rw [leaves leaf member] at found
    cases found
    exact ⟨_, by rfl, rfl⟩
  have listed := recorded_nested found
  simp only [List.map_cons, List.map_nil, List.mem_cons, List.not_mem_nil, or_false] at listed
  obtain same | same | same | same | rfl | rfl := listed
  · exact memory "a" (by decide) same
  · exact memory "b" (by decide) same
  · exact memory "d" (by decide) same
  · exact memory "e" (by decide) same
  · rw [inner] at found
    cases found
  · rw [main] at found
    cases found

/-- Resolve the graph, put a key and enumerate: the keys that were shown, the last one first, and
    how many words were drawn. -/
def nestedRun (name : String) : StoreM (List Bytes × Nat) := do
  let s ← (nestedResolver name).resolve (Bytes.ofText "main") (.memory ⟨0⟩)
  s.put [7] [8]
  let keys ← VisitM.collect [] (s.keys fun key => VisitM.note (key :: ·))
  return (keys, (← getThe World).drawn)

theorem nestedRun_steps {name : String} {keys : List Bytes} {drawn : Nat}
    (ran : (nestedRun name).run' nestedWorld = some (keys, drawn)) :
    ∃ s start now after, ((nestedResolver name).resolve (Bytes.ofText "main") (.memory ⟨0⟩)).run
        nestedWorld = .ok s start ∧
      (s.put [7] [8]).run start = .ok () now ∧
      (s.keys fun key => VisitM.note (key :: ·)).run (now, []) = .ok () (after, keys) ∧
      after.drawn = drawn := by
  obtain ⟨w, run⟩ := exists_run_of_run' ran
  simp only [nestedRun, run_bind_eq_ok_iff] at run
  obtain ⟨s, start, resolved, _, now, put, shown, after, collected, w', w'', got, done⟩ := run
  cases got
  cases done
  rw [VisitM.run_collect] at collected
  cases enumerated : (s.keys fun key => VisitM.note (key :: ·)).run (now, ([] : List Bytes)) with
  | error e stop =>
    rw [enumerated] at collected
    cases collected
  | ok _ stop =>
    rw [enumerated] at collected
    cases collected
    exact ⟨s, start, now, _, resolved, put, enumerated, rfl⟩

/-- Two redundant stores, one below the other, with the same dedup store: the inner one erases what
    the outer one remembers, which shows a key that both copies hold twice. -/
theorem shared_dedup_shows_twice :
    (nestedResolver "d").DedupsApart nestedRecords (Bytes.ofText "main") ∧
      ∃ s start now after, ((nestedResolver "d").resolve (Bytes.ofText "main") (.memory ⟨0⟩)).run
          nestedWorld = .ok s start ∧
        (s.put [7] [8]).run start = .ok () now ∧
        (s.keys fun key => VisitM.note (key :: ·)).run (now, []) = .ok () (after, [[7], [7]]) ∧
        ∀ i j, i < j → j < after.drawn → nestedWorld.randomness i ≠ nestedWorld.randomness j := by
  obtain ⟨s, start, now, after, resolved, put, keys, drawn⟩ :=
    nestedRun_steps (by decide +kernel : (nestedRun "d").run' nestedWorld = some ([[7], [7]], 4))
  refine ⟨dedupsApart_nested (.inl rfl), s, start, now, after, resolved, put, keys, ?_⟩
  rw [drawn]
  exact fun i j less within => distinct_nested j within i less

theorem dedupAlone_nested :
    (nestedResolver "e").DedupAlone nestedRecords (Bytes.ofText "main") := by
  obtain ⟨main, inner, leaves⟩ := described_nested "e"
  intro record dedup id record' dedup' leaf url found named path below found' named' led _ led'
  obtain ⟨-, rfl⟩ | ⟨other, -⟩ := dedups_nested (.inr rfl) .refl found named
  · obtain ⟨same, -⟩ | ⟨-, rfl⟩ := dedups_nested (.inr rfl) path found' named'
    · exact below same
    · have outer := led.eq_of_simple (leaves "e" (by decide))
      have inner := led'.eq_of_simple (leaves "d" (by decide))
      exact absurd (outer.symm.trans inner) (by decide)
  · exact absurd other (by decide)

theorem nested_dedups_show_once :
    ∃ s start now, ((nestedResolver "e").resolve (Bytes.ofText "main") (.memory ⟨0⟩)).run
        nestedWorld = .ok s start ∧
      (s.put [7] [8]).run start = .ok () now ∧
      ∃ keys stop, (s.keys fun key => VisitM.note (key :: ·)).run (now, ([] : List Bytes)) =
        .ok () stop ∧ [7] ∈ keys ∧ keys.Nodup ∧
        Shows (fun _ _ => True) (fun key => VisitM.note (key :: ·)) (now, ([] : List Bytes)) keys
          (.finished (.ok ())) stop := by
  obtain ⟨s, start, now, after, resolved, put, enumerated, drawn⟩ :=
    nestedRun_steps (by decide +kernel : (nestedRun "e").run' nestedWorld = some ([[7]], 4))
  have recorded : Recorded ⟨0⟩ nestedRecords nestedWorld := ⟨rfl, Nat.one_pos⟩
  have calm : ∀ id, Moves SameEpochs ((Store.memory ⟨0⟩).get id) := by
    intro id w
    rw [reads_nothing (.memory ⟨0⟩)]
    exact ⟨rfl, rfl, rfl⟩
  have used : Used (Aside s) s start (stateAfter (s.put [7] [8]) start) _ := .put [7] [8] .fresh
  rw [stateAfter_ok put] at used
  have visits : ∀ key : Bytes, Leaves (Aside s) (VisitM.note (key :: ·)) := fun key state =>
    ⟨fun _ _ => rfl, fun _ _ => rfl, fun _ _ => rfl, Nat.le_refl _, rfl⟩
  obtain ⟨main, -, -⟩ := described_nested "e"
  obtain ⟨keys, ending, stop, course, run, reports, finishes, once⟩ :=
    shared_dedups_show_all (overMemory_nested "e") recorded calm resolved main
      (dedupsApart_nested (.inr rfl)) used (fun key => VisitM.note (key :: ·)) [] visits (by
        rw [stateAfter_ok enumerated, drawn]
        exact fun i j less within => distinct_nested j within i less)
  obtain rfl := finishes fun key s => ⟨_, rfl⟩
  have shown : [7] ∈ keys := reports.whole rfl [7] (by simp)
  exact ⟨s, start, now, resolved, put, keys, stop, run, shown, once dedupAlone_nested,
    course.mono fun _ _ _ => trivial⟩

end Resolver

end StoreGraph
