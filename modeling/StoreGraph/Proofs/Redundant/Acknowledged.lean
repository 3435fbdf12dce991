import StoreGraph.Proofs.Graph.Access
import StoreGraph.Proofs.Refusals

/-! # Reading an acknowledged write

A redundant store with a quorum, over plain stores in cells of their own. Any of them may refuse a
write while it goes on serving reads. A write reaches every copy that does not refuse it, and a read
is answered by the first copy that holds something. Hence the value of an acknowledged `put` is read
back, unless a copy that refused it comes before all that accepted it and still holds an older value
(`acknowledged_put_is_read`): then that one is read (`acknowledged_put_reads_older`).
-/

namespace StoreGraph

namespace PlainStore

variable {p q : PlainStore} {w w' : World}

/-- What the store holds after a write that it may refuse. -/
def heldAfter (p : PlainStore) (write : Write) (w : World) : SortedMap Bytes Bytes :=
  if p.refusal? w write = none then write.apply (p.entries w) else p.entries w

theorem get?_heldAfter (p : PlainStore) (write : Write) (w : World) (key : Bytes) :
    (p.heldAfter write w).get? key =
      if p.refusal? w write = none ∧ key = write.key then write.value?
      else (p.entries w).get? key := by
  by_cases accepted : p.refusal? w write = none
  · rw [heldAfter, if_pos accepted, Write.get?_apply]
    simp only [accepted, true_and]
  · rw [heldAfter, if_neg accepted]
    simp only [accepted, false_and, if_false]

/-- No store holds anything else, or begins to refuse reads. -/
structure Spared (w w' : World) : Prop where
  entries : ∀ q : PlainStore, q.entries w' = q.entries w
  serving : ∀ q : PlainStore, q.Serving w → q.Serving w'

theorem frame_spared : Frame Spared where
  refl _ := ⟨fun _ => rfl, fun _ => id⟩
  trans first second :=
    ⟨fun q => (second.entries q).trans (first.entries q),
      fun q serving => second.serving q (first.serving q serving)⟩

/-- A store that is only read spares all stores, itself included. -/
theorem Looks.spared (looks : p.Looks w w') : Spared w w' := by
  have own : ∀ q : PlainStore, ¬ p.Apart q →
      q.entries w' = q.entries w ∧ (q.Serving w → q.Serving w') := by
    intro q shared
    cases p with
    | memory cell =>
      cases q with
      | memory cell' =>
        obtain rfl := Classical.not_not.mp shared
        exact ⟨looks.entries, id⟩
      | probe cell' traits' => exact absurd trivial shared
    | probe cell traits =>
      cases q with
      | memory cell' => exact absurd trivial shared
      | probe cell' traits' =>
        obtain rfl := Classical.not_not.mp shared
        exact ⟨looks.entries, looks.serving⟩
  constructor
  · intro q
    by_cases apart : p.Apart q
    · exact looks.entries_apart apart
    · exact (own q apart).1
  · intro q
    by_cases apart : p.Apart q
    · exact looks.serving_apart apart
    · exact (own q apart).2

end PlainStore

open PlainStore (Apart Spared)

/-- Every store of a list carries out a write unless it refuses it, and other stores are spared. -/
structure Written (backs : List PlainStore) (write : Write) (w w' : World) : Prop where
  entries : ∀ p ∈ backs, p.entries w' = p.heldAfter write w
  serving : ∀ p ∈ backs, p.Serving w → p.Serving w'
  others : ∀ q, (∀ p ∈ backs, p.Apart q) →
    q.entries w' = q.entries w ∧ (q.Serving w → q.Serving w')

section Writes

variable {backs : List PlainStore} {write : Write} {w w₁ w' : World} {p : PlainStore}

/-- How many of the stores refuse a write. -/
def refusals (backs : List PlainStore) (write : Write) (w : World) : Nat :=
  backs.countP fun p => (p.refusal? w write).isSome

theorem refusals_pos_iff : 0 < refusals backs write w ↔ ∃ p ∈ backs, p.refusal? w write ≠ none := by
  simp only [refusals, List.countP_pos_iff, Option.isSome_iff_ne_none]

theorem Written.cons (apart : ∀ q ∈ backs, p.Apart q) (works : p.Works w w₁)
    (held : p.entries w₁ = p.heldAfter write w) (later : Written backs write w₁ w') :
    Written (p :: backs) write w w' := by
  have own := later.others p fun q listed => (apart q listed).symm
  constructor
  · intro q listed
    cases listed with
    | head => rw [own.1, held]
    | tail _ listed =>
      rw [later.entries q listed, PlainStore.heldAfter, PlainStore.heldAfter,
        works.refusal?_apart (apart q listed), works.entries_apart (apart q listed)]
  · intro q listed serving
    cases listed with
    | head => exact own.2 (works.serving serving)
    | tail _ listed => exact later.serving q listed (works.serving_apart (apart q listed) serving)
  · intro q away
    have first := away p List.mem_cons_self
    obtain ⟨same, serves⟩ := later.others q fun p listed => away p (List.mem_cons_of_mem _ listed)
    exact ⟨same.trans (works.entries_apart first),
      fun serving => serves (works.serving_apart first serving)⟩

/-- One write to each of the copies: the failures are as many as copies refuse it. -/
theorem run_gatherFailures_writes (apart : backs.Pairwise Apart) (doing : String) (write : Write)
    (w : World) :
    ∃ failures w', (gatherFailures (numbered doing (backs.map fun p => write.run p.store))).run w =
        .ok failures w' ∧
      Written backs write w w' ∧ failures.length = refusals backs write w := by
  unfold numbered
  -- The copies behind the first are numbered from one: the induction is over any first number.
  generalize 0 = start
  induction backs generalizing w start with
  | nil => exact ⟨[], w, rfl, ⟨nofun, nofun, fun _ _ => ⟨rfl, id⟩⟩, rfl⟩
  | cons p rest ih =>
    obtain ⟨first, apart⟩ := List.pairwise_cons.mp apart
    have others : ∀ {w₁}, p.Works w w₁ → refusals rest write w₁ = refusals rest write w :=
      fun works => List.countP_congr fun q listed => by
        rw [works.refusal?_apart (first q listed)]
    cases p.attempts write w with
    | @done w₁ run accepted works entries rest' =>
      obtain ⟨failures, w', further, written, count⟩ := ih apart w₁ (start + 1)
      refine ⟨failures, w', ?_, written.cons first works (entries.trans (if_pos accepted).symm), ?_⟩
      · simp only [List.map_cons, List.zipIdx_cons, gatherFailures, EStateM.run_bind, run_attempt,
          run]
        exact further
      · rw [count, others works, refusals, refusals, List.countP_cons_of_neg]
        rw [accepted]
        exact Bool.false_ne_true
    | @refused w₁ e run refusal looks =>
      obtain ⟨failures, w', further, written, count⟩ := ih apart w₁ (start + 1)
      have held : p.entries w₁ = p.heldAfter write w :=
        looks.entries.trans (if_neg (by rw [refusal]; exact Option.some_ne_none e)).symm
      refine ⟨.context s!"{doing} {start}" e :: failures, w', ?_,
        written.cons first looks.toWorks held, ?_⟩
      · simp only [List.map_cons, List.zipIdx_cons, gatherFailures, EStateM.run_bind, run_attempt,
          run, EStateM.run_pure]
        rw [further]
      · rw [List.length_cons, count, others looks.toWorks, refusals, refusals,
          List.countP_cons_of_pos]
        rw [refusal]
        rfl

/-- Changes beside the cells of the stores do not matter. -/
theorem Written.congr (written : Written backs write w w₁) (memories : w'.memories = w₁.memories)
    (probes : w'.probes = w₁.probes) : Written backs write w w' where
  entries p listed := (p.works_of_same memories probes).2.trans (written.entries p listed)
  serving p listed serving :=
    (p.works_of_same memories probes).1.serving (written.serving p listed serving)
  others q away := by
    obtain ⟨works, same⟩ := q.works_of_same memories probes
    obtain ⟨kept, serves⟩ := written.others q away
    exact ⟨same.trans kept, fun serving => works.serving (serves serving)⟩

/-- Beyond the writes themselves a write with a quorum touches no cell, and if it succeeds, so many
    of the writes have. -/
theorem Quorum.write_ends {writes : List (StoreM Unit)} {failures : List Error} (demand : Quorum)
    (gathered : (gatherFailures (numbered "write to storage" writes)).run w = .ok failures w₁) :
    (stateAfter (demand.write writes) w).memories = w₁.memories ∧
      (stateAfter (demand.write writes) w).probes = w₁.probes ∧
      (outcome (demand.write writes) w = .ok () →
        demand.needed + failures.length ≤ writes.length) := by
  simp only [stateAfter, outcome, Quorum.write, EStateM.run_bind, gathered]
  by_cases missed : writes.length - failures.length < demand.needed
  · simp only [missed, if_true]
    refine ⟨rfl, rfl, fun succeeded => ?_⟩
    cases succeeded
  · have positive := demand.needed_pos
    simp only [missed, if_false]
    cases failures.isEmpty with
    | true => exact ⟨rfl, rfl, fun _ => by omega⟩
    | false => exact ⟨rfl, rfl, fun _ => by omega⟩

/-- However a write with a quorum ends, it reaches the copies that do not refuse it. If it succeeds,
    these are enough. -/
theorem written_quorum (demand : Quorum) (apart : backs.Pairwise Apart) (write : Write)
    (w : World) :
    let writes := demand.write (backs.map fun p => write.run p.store)
    Written backs write w (stateAfter writes w) ∧
      (outcome writes w = .ok () → demand.needed + refusals backs write w ≤ backs.length) := by
  obtain ⟨failures, w₁, gathered, written, count⟩ :=
    run_gatherFailures_writes apart "write to storage" write w
  obtain ⟨memories, probes, enough⟩ := demand.write_ends gathered
  rw [count, List.length_map] at enough
  exact ⟨written.congr memories probes, enough⟩

end Writes

/-! ## Reads -/

section Reads

variable {backs : List PlainStore} {w : World} {key : Bytes}

/-- The first copy that holds something answers a read. If none does, the key is not found. -/
theorem run_firstHitAfter (serving : ∀ p ∈ backs, p.Serving w) {failures : List Error}
    (absent : ∀ e ∈ failures, e = .notFound) (key : Bytes) :
    ∃ w', Spared w w' ∧ (firstHitAfter failures (backs.map fun p => p.store.get key)).run w =
      match backs.findSome? fun p => (p.entries w).get? key with
      | some value => .ok value w'
      | none => .error .notFound w' := by
  induction backs generalizing w failures with
  | nil =>
    have unfound : allReadsFailed failures = .notFound := by
      have last : failures.getLast?.all Error.isNotFound = true := by
        rw [Option.all_eq_true]
        intro e listed
        rw [absent e (List.mem_of_getLast? listed)]
        rfl
      rw [allReadsFailed, if_pos last]
    refine ⟨w, PlainStore.frame_spared.refl w, ?_⟩
    rw [List.map_nil, firstHitAfter, unfound]
    rfl
  | cons p rest ih =>
    obtain ⟨w₁, looks, run⟩ := PlainStore.run_get (serving p List.mem_cons_self) key
    have spared := looks.spared
    rw [List.map_cons, firstHitAfter, List.findSome?_cons, EStateM.run_bind, run_attempt, run]
    cases held : (p.entries w).get? key with
    | some value => exact ⟨w₁, spared, rfl⟩
    | none =>
      have further : ∀ e ∈ failures ++ [.notFound], e = .notFound := by
        simpa [or_imp, forall_and] using absent
      obtain ⟨w', spared', run'⟩ := ih (fun q listed =>
        spared.serving q (serving q (List.mem_cons_of_mem _ listed))) further
      simp only [spared.entries] at run'
      exact ⟨w', PlainStore.frame_spared.trans spared spared', run'⟩

end Reads

/-! ## The store over the copies -/

/-- A redundant store over copies of which so many have to accept a write. -/
def copied (demand : Quorum) (backs : List PlainStore) (dedup : DedupScheme) (offload : Store) :
    Store :=
  .redundant (.quorum demand) (backs.map (·.store)) dedup offload

/-- What may happen while nobody writes a key: other keys are written, with or without success, any
    key is read, and the copies change their mind about which writes they refuse. -/
inductive Passes (s : Store) (backs : List PlainStore) (key : Bytes) : World → World → Prop where
  | none {w} : Passes s backs key w w
  | write {w now} (before : Passes s backs key w now) (write : Write) (other : write.key ≠ key) :
      Passes s backs key w (stateAfter (write.run s) now)
  | get {w now} (before : Passes s backs key w now) (wanted : Bytes) :
      Passes s backs key w (stateAfter (s.get wanted) now)
  | meanwhile {w now later} (before : Passes s backs key w now)
      (entries : ∀ p ∈ backs, p.entries later = p.entries now)
      (serving : ∀ p ∈ backs, p.Serving later) : Passes s backs key w later

/-- A copy that refuses a write comes before all copies that accept it, and it is the first one that
    holds anything under the key. -/
def Shadows (backs : List PlainStore) (write : Write) (w : World) (old : Bytes) : Prop :=
  ∃ earlier p later, backs = earlier ++ p :: later ∧
    p.refusal? w write ≠ none ∧ (p.entries w).get? write.key = some old ∧
    ∀ q ∈ earlier, q.refusal? w write ≠ none ∧ (q.entries w).get? write.key = none

section Copies

variable {demand : Quorum} {backs : List PlainStore} {dedup : DedupScheme} {offload : Store}
  {w w' before after now : World} {key value : Bytes}

theorem put_copied (dedup : DedupScheme) (offload : Store) (key value : Bytes) :
    (copied demand backs dedup offload).put key value =
      demand.write (backs.map fun p => p.store.put key value) := by
  have copies := Store.map_storages (·.put key value) (backs.map (·.store))
  rw [List.map_map] at copies
  exact congrArg demand.write copies

theorem get_copied (key : Bytes) :
    (copied demand backs dedup offload).get key =
      firstHit (backs.map fun p => p.store.get key) := by
  have copies := Store.map_storages (·.get key) (backs.map (·.store))
  rw [List.map_map] at copies
  exact congrArg firstHit copies

theorem del_copied (key : Bytes) :
    (copied demand backs dedup offload).del key =
      gatherFailures (numbered "delete on storage" (backs.map fun p => p.store.del key)) >>=
        fun failures => ofExcept (Error.ofFailures failures) := by
  have copies := Store.map_storages (·.del key) (backs.map (·.store))
  rw [List.map_map] at copies
  exact congrArg (fun deletes => gatherFailures (numbered "delete on storage" deletes) >>=
    fun failures => ofExcept (Error.ofFailures failures)) copies

/-- However a write ends, it reaches the copies that do not refuse it. -/
theorem written_copied (demand : Quorum) (dedup : DedupScheme) (offload : Store)
    (apart : backs.Pairwise Apart) (write : Write) (w : World) :
    Written backs write w (stateAfter (write.run (copied demand backs dedup offload)) w) := by
  cases write with
  | put key value =>
    rw [Write.run, put_copied]
    exact (written_quorum demand apart (.put key value) w).1
  | del key =>
    obtain ⟨failures, w₁, gathered, written, -⟩ :=
      run_gatherFailures_writes apart "delete on storage" (.del key) w
    simp only [Write.run] at gathered
    have left : stateAfter ((Write.del key).run (copied demand backs dedup offload)) w = w₁ := by
      rw [Write.run, del_copied, stateAfter, EStateM.run_bind, gathered]
      dsimp only
      cases Error.ofFailures failures with
      | ok _ => rfl
      | error e => rfl
    rw [left]
    exact written

theorem run_get_copied (demand : Quorum) (dedup : DedupScheme) (offload : Store)
    (serving : ∀ p ∈ backs, p.Serving w) (key : Bytes) :
    ∃ w', Spared w w' ∧ ((copied demand backs dedup offload).get key).run w =
      match backs.findSome? fun p => (p.entries w).get? key with
      | some value => .ok value w'
      | none => .error .notFound w' := by
  rw [get_copied]
  exact run_firstHitAfter serving (List.forall_mem_nil _) key

theorem spared_get_copied (demand : Quorum) (dedup : DedupScheme) (offload : Store)
    (serving : ∀ p ∈ backs, p.Serving w) (key : Bytes) :
    Spared w (stateAfter ((copied demand backs dedup offload).get key) w) := by
  obtain ⟨w', spared, run⟩ := run_get_copied demand dedup offload serving key
  rw [stateAfter, run]
  cases backs.findSome? fun p => (p.entries w).get? key with
  | some value => exact spared
  | none => exact spared

/-- While nobody writes a key, the copies go on serving reads and hold under it what they held. -/
theorem Passes.holds (apart : backs.Pairwise Apart) (serving : ∀ p ∈ backs, p.Serving w)
    (passes : Passes (copied demand backs dedup offload) backs key w now) :
    ∀ p ∈ backs, p.Serving now ∧ (p.entries now).get? key = (p.entries w).get? key := by
  induction passes with
  | none => exact fun p listed => ⟨serving p listed, rfl⟩
  | @write now earlier write other ih =>
    have written := written_copied demand dedup offload apart write now
    intro p listed
    obtain ⟨serves, same⟩ := ih p listed
    refine ⟨written.serving p listed serves, ?_⟩
    rw [written.entries p listed, PlainStore.get?_heldAfter, if_neg fun own => other own.2.symm,
      same]
  | @get now earlier wanted ih =>
    have spared := spared_get_copied demand dedup offload
      (fun p listed => (ih p listed).1) wanted
    intro p listed
    obtain ⟨serves, same⟩ := ih p listed
    exact ⟨spared.serving p serves, by rw [spared.entries, same]⟩
  | meanwhile earlier entries serving' ih =>
    intro p listed
    exact ⟨serving' p listed, by rw [entries p listed, (ih p listed).2]⟩

/-! What the copies hold, and so what a read finds, after a `put` that some of them accepted. -/

section Answers

variable (written : ∀ p ∈ backs,
  (p.entries now).get? key = (p.heldAfter (.put key value) w).get? key)

include written

/-- A copy holds the value, unless it refused the write. -/
theorem get?_written {p : PlainStore} (listed : p ∈ backs) :
    (p.entries now).get? key =
      if p.refusal? w (.put key value) = none then some value else (p.entries w).get? key := by
  rw [written p listed, PlainStore.get?_heldAfter]
  simp only [Write.key, Write.value?, and_true]

theorem findSome?_of_shadows {old : Bytes} (shadows : Shadows backs (.put key value) w old) :
    (backs.findSome? fun p => (p.entries now).get? key) = some old := by
  obtain ⟨earlier, p, later, rfl, refused, older, empty⟩ := shadows
  rw [List.findSome?_eq_some_iff]
  refine ⟨earlier, p, later, rfl, ?_, fun q listed => ?_⟩
  · rw [get?_written written (by simp), if_neg refused]
    exact older
  · rw [get?_written written (by simp [listed]), if_neg (empty q listed).1]
    exact (empty q listed).2

/-- Whatever else than the value is found, it shadows the value. -/
theorem eq_or_shadows_of_findSome? {answer : Bytes}
    (found : (backs.findSome? fun p => (p.entries now).get? key) = some answer) :
    answer = value ∨ Shadows backs (.put key value) w answer := by
  obtain ⟨earlier, p, later, rfl, hit, missed⟩ := List.findSome?_eq_some_iff.mp found
  rw [get?_written written (by simp)] at hit
  by_cases accepts : p.refusal? w (.put key value) = none
  · rw [if_pos accepts] at hit
    exact .inl (Option.some.inj hit).symm
  · rw [if_neg accepts] at hit
    refine .inr ⟨earlier, p, later, rfl, accepts, hit, fun q listed => ?_⟩
    have nothing := missed q listed
    rw [get?_written written (by simp [listed])] at nothing
    by_cases accepts : q.refusal? w (.put key value) = none
    · rw [if_pos accepts] at nothing
      cases nothing
    · rw [if_neg accepts] at nothing
      exact ⟨accepts, nothing⟩

/-- A copy that accepted the write holds something. -/
theorem exists_findSome? (accepted : refusals backs (.put key value) w < backs.length) :
    ∃ answer, (backs.findSome? fun p => (p.entries now).get? key) = some answer := by
  rw [← Option.ne_none_iff_exists']
  intro found
  rw [List.findSome?_eq_none_iff] at found
  have all : refusals backs (.put key value) w = backs.length := by
    refine List.countP_eq_length.mpr fun p listed => ?_
    rw [Option.isSome_iff_ne_none]
    intro accepts
    have nothing := found p listed
    rw [get?_written written listed, if_pos accepts] at nothing
    cases nothing
  omega

end Answers

/-- A key reads as the value of its last `put`, if that was acknowledged, for as long as nobody
    writes the key again. The one exception is a value that shadows it, which then is the answer.
    None does if all copies have to accept a write. -/
theorem acknowledged_put_is_read (apart : backs.Pairwise Apart)
    (serving : ∀ p ∈ backs, p.Serving before)
    (put : ((copied demand backs dedup offload).put key value).run before = .ok () after)
    (passes : Passes (copied demand backs dedup offload) backs key after now) :
    ∃ answer later, ((copied demand backs dedup offload).get key).run now = .ok answer later ∧
      (∀ old, Shadows backs (.put key value) before old → answer = old) ∧
      ((∀ old, ¬ Shadows backs (.put key value) before old) → answer = value) ∧
      (backs.length ≤ demand.needed → answer = value) := by
  obtain ⟨written, enough⟩ := written_quorum demand apart (.put key value) before
  simp only [Write.run, ← put_copied dedup offload] at written enough
  have enough := enough (outcome_ok put)
  rw [stateAfter_ok put] at written
  have holds := passes.holds apart fun p listed => written.serving p listed (serving p listed)
  have positive := demand.needed_pos
  have held : ∀ p ∈ backs, (p.entries now).get? key =
      (p.heldAfter (.put key value) before).get? key := fun p listed =>
    (holds p listed).2.trans (by rw [written.entries p listed])
  obtain ⟨answer, found⟩ := exists_findSome? held (by omega)
  obtain ⟨later, -, run⟩ := run_get_copied demand dedup offload
    (fun p listed => (holds p listed).1) key
  rw [found] at run
  have unshadowed : (∀ old, ¬ Shadows backs (.put key value) before old) → answer = value :=
    fun none => (eq_or_shadows_of_findSome? held found).resolve_right (none answer)
  refine ⟨answer, later, run, fun old shadows => ?_, unshadowed, fun all => unshadowed ?_⟩
  · exact Option.some.inj (found.symm.trans (findSome?_of_shadows held shadows))
  · rintro old ⟨earlier, p, later, rfl, refused, -⟩
    have some : 0 < refusals (earlier ++ p :: later) (.put key value) before :=
      refusals_pos_iff.mpr ⟨p, by simp, refused⟩
    omega

end Copies

/-! ## Runs on fixed inputs -/

/-- Rules by which a store refuses every `put`, after so many that it accepts. -/
def refusingPuts (skip : Nat) : List FaultRule :=
  [{ op := .put, skip, error := .backend "refused" }]

def fiveCopies : List PlainStore :=
  [.probe ⟨0⟩ {}, .memory ⟨0⟩, .probe ⟨1⟩ {}, .memory ⟨1⟩, .probe ⟨2⟩ {}]

/-- An empty world in which every other one of the five copies refuses writes. -/
def degraded : World :=
  (({ randomness := fun _ => 0 : World }.ruled ⟨0⟩ (refusingPuts 0)).ruled
    ⟨1⟩ (refusingPuts 0)).ruled ⟨2⟩ (refusingPuts 0)

/-- A store for which one copy that accepts a write is enough. -/
def lenient (backs : List PlainStore) : Store := copied .any backs (.offloaded ⟨0⟩) .nop

theorem acknowledged_put_is_read_from_degraded :
    let written := stateAfter ((lenient fiveCopies).put [1] [2]) degraded
    let now := stateAfter ((lenient fiveCopies).put [3] [4]) written
    fiveCopies.Pairwise Apart ∧ (∀ p ∈ fiveCopies, p.Serving degraded) ∧
    ((lenient fiveCopies).put [1] [2]).run degraded = .ok () written ∧
    Passes (lenient fiveCopies) fiveCopies [1] written now ∧
    (∀ old, ¬ Shadows fiveCopies (.put [1] [2]) degraded old) ∧
    ∃ later, ((lenient fiveCopies).get [1]).run now = .ok [2] later := by
  intro written now
  have apart : fiveCopies.Pairwise Apart := by decide
  have serving : ∀ p ∈ fiveCopies, p.Serving degraded := by decide
  have put : ((lenient fiveCopies).put [1] [2]).run degraded = .ok () written := rfl
  have passes : Passes (lenient fiveCopies) fiveCopies [1] written now :=
    .write .none (.put [3] [4]) (by decide)
  have empty : ∀ p ∈ fiveCopies, (p.entries degraded).get? [1] = none := by decide
  have unshadowed : ∀ old, ¬ Shadows fiveCopies (.put [1] [2]) degraded old := by
    rintro old ⟨earlier, p, later, split, -, held, -⟩
    exact nomatch (empty p (by simp [split])).symm.trans held
  obtain ⟨answer, later, run, -, read, -⟩ := acknowledged_put_is_read apart serving put passes
  obtain rfl := read unshadowed
  exact ⟨apart, serving, put, passes, unshadowed, later, run⟩

def twoCopies : List PlainStore := [.probe ⟨0⟩ {}, .memory ⟨0⟩]

/-- An empty world in which the first of the two copies accepts one write only. -/
def degrading : World := { randomness := fun _ => 0 : World }.ruled ⟨0⟩ (refusingPuts 1)

theorem acknowledged_put_reads_older :
    let first := stateAfter ((lenient twoCopies).put [1] [2]) degrading
    let second := stateAfter ((lenient twoCopies).put [1] [3]) first
    twoCopies.Pairwise Apart ∧ (∀ p ∈ twoCopies, p.Serving degrading ∧ p.Serving first) ∧
    ((lenient twoCopies).put [1] [2]).run degrading = .ok () first ∧
    ((lenient twoCopies).put [1] [3]).run first = .ok () second ∧
    ∃ later, ((lenient twoCopies).get [1]).run second = .ok [2] later := by
  exact ⟨by decide, by decide, rfl, rfl, _, rfl⟩

end StoreGraph
