import Mathlib.Data.List.Basic
import StoreGraph.Proofs.Redundant.Acknowledged
import StoreGraph.Proofs.Requests
import StoreGraph.Resolver

/-! # Copies that fail in any combination

A redundant store with a quorum, over copies of any kind that take no notice of each other
(`Replica.Apart`). Any of them may fail a call, without effect. Writing and deleting try every copy
in its turn whatever becomes of the others, and reading stops at the first copy that answers. Which
copies fail decides everything else: whether the call succeeds, which failure it ends in otherwise,
what is counted, and what each copy holds afterwards (`quorum_under_failures`).
-/

namespace StoreGraph

/-! ## Actions that are tried one after another -/

section Tried

variable {σ α : Type} {s : σ}

/-- The failure of an action, if it fails. -/
def failure? (x : EStateM Error σ α) (s : σ) : Option Error :=
  match outcome x s with
  | .ok _ => none
  | .error e => some e

theorem failure?_eq_some_iff {x : EStateM Error σ α} {e : Error} :
    failure? x s = some e ↔ outcome x s = .error e := by
  unfold failure?
  cases outcome x s <;> simp

theorem failure?_ok {x : EStateM Error σ α} {a : α} {s' : σ} (run : x.run s = .ok a s') :
    failure? x s = none := by
  rw [failure?.eq_1, outcome_ok run]

theorem failure?_error {x : EStateM Error σ α} {e : Error} {s' : σ} (run : x.run s = .error e s') :
    failure? x s = some e :=
  failure?_eq_some_iff.2 (outcome_error run)

/-- The state after a list of actions, each of which is tried whatever became of those before. -/
def afterEach (xs : List (EStateM Error σ α)) (s : σ) : σ :=
  xs.foldl (fun s x => stateAfter x s) s

/-- No action has any influence on what becomes of a later one. -/
def Independent (xs : List (EStateM Error σ α)) : Prop :=
  xs.Pairwise fun x y => ∀ s, outcome y (stateAfter x s) = outcome y s

/-- The failures among several actions, each under the description of its action. -/
def failuresOf (xs : List (String × EStateM Error σ α)) (s : σ) : List Error :=
  xs.filterMap fun call => (failure? call.2 s).map (.context call.1)

theorem failuresOf_cons (doing : String) (x : EStateM Error σ α)
    (rest : List (String × EStateM Error σ α)) (s : σ) :
    failuresOf ((doing, x) :: rest) s =
      ((failure? x s).map (Error.context doing)).toList ++ failuresOf rest s := by
  rw [failuresOf, List.filterMap_cons]
  dsimp only
  cases failure? x s <;> rfl

theorem failure?_later {x : EStateM Error σ α} {rest : List (EStateM Error σ α)}
    (independent : ∀ y ∈ rest, ∀ s, outcome y (stateAfter x s) = outcome y s) (s : σ) :
    ∀ y ∈ rest, failure? y (stateAfter x s) = failure? y s := by
  intro y listed
  rw [failure?, failure?, independent y listed]

/-- Collecting the failures tries every action. -/
theorem run_gatherFailures_independent {xs : List (String × EStateM Error σ Unit)}
    (independent : Independent (xs.map Prod.snd)) (s : σ) :
    (gatherFailures xs).run s = .ok (failuresOf xs s) (afterEach (xs.map Prod.snd) s) := by
  induction xs generalizing s with
  | nil => rfl
  | cons first rest ih =>
    obtain ⟨doing, x⟩ := first
    obtain ⟨first, later⟩ := List.pairwise_cons.1 independent
    have same : failuresOf rest (stateAfter x s) = failuresOf rest s := by
      refine List.filterMap_congr fun call listed => ?_
      exact congrArg (Option.map (Error.context call.1))
        (failure?_later first s call.2 (List.mem_map_of_mem listed))
    have further := ih later (stateAfter x s)
    rw [same] at further
    rw [List.map_cons, afterEach, List.foldl_cons, ← afterEach]
    cases run : x.run s with
    | ok _ s₁ =>
      rw [stateAfter_ok run] at further ⊢
      rw [failuresOf_cons, failure?_ok run]
      simp only [gatherFailures, EStateM.run_bind, run_attempt, run]
      exact further
    | error e s₁ =>
      rw [stateAfter_error run] at further ⊢
      rw [failuresOf_cons, failure?_error run]
      simp only [gatherFailures, EStateM.run_bind, run_attempt, run, further, EStateM.run_pure]
      rfl

theorem map_snd_numbered {β : Type _} (doing : String) (xs : List β) :
    (numbered doing xs).map Prod.snd = xs := by
  simp [numbered, Function.comp_def]

theorem numbered_map {β γ : Type _} (doing : String) (f : β → γ) (xs : List β) :
    numbered doing (xs.map f) = (numbered doing xs).map fun (doing, x) => (doing, f x) := by
  simp [numbered, List.zipIdx_map, Function.comp_def]

/-! An action is the same action if something else is made of its answer. -/

section Returned

variable {β : Type} (x : EStateM Error σ α) (f : α → β) (s : σ)

theorem outcome_return : outcome (do let a ← x; return f a) s = (outcome x s).map f := by
  rw [outcome_bind]
  cases outcome x s <;> rfl

theorem stateAfter_return : stateAfter (do let a ← x; return f a) s = stateAfter x s := by
  rw [stateAfter_bind]
  cases outcome x s <;> rfl

theorem failure?_return : failure? (do let a ← x; return f a) s = failure? x s := by
  rw [failure?.eq_1, outcome_return, failure?.eq_1]
  cases outcome x s <;> rfl

end Returned

theorem Independent.of_returned {β : Type} {γ : Type _} {x : γ → EStateM Error σ α} {f : α → β}
    {cs : List γ} (injective : f.Injective)
    (independent : Independent (cs.map fun c => do let a ← x c; return f a)) :
    Independent (cs.map x) := by
  refine List.pairwise_map.2 ((List.pairwise_map.1 independent).imp fun {b c} same s => ?_)
  have same := same s
  rw [stateAfter_return, outcome_return, outcome_return] at same
  cases later : outcome (x c) (stateAfter (x b) s) with
  | ok a =>
    rw [later] at same
    cases first : outcome (x c) s with
    | ok a' =>
      rw [first] at same
      exact congrArg Except.ok (injective (Except.ok.inj same))
    | error e => rw [first] at same; cases same
  | error e =>
    rw [later] at same
    cases first : outcome (x c) s with
    | ok a => rw [first] at same; cases same
    | error e' => rw [first] at same; cases same; rfl

theorem afterEach_returned {β : Type} {γ : Type _} (x : γ → EStateM Error σ α) (f : α → β)
    (cs : List γ) (s : σ) :
    afterEach (cs.map fun c => do let a ← x c; return f a) s = afterEach (cs.map x) s := by
  simp only [afterEach, List.foldl_map, stateAfter_return]

end Tried

section Reads

variable {reads earlier later : List (StoreM Bytes)} {read : StoreM Bytes} {w : World}
  {errors failures : List Error}

/-- The first read that succeeds answers, and the ones behind it are not tried. -/
theorem run_firstHitAfter_found {value : Bytes}
    (independent : Independent (earlier ++ read :: later))
    (missed : ∀ x ∈ earlier, failure? x w ≠ none) (found : outcome read w = .ok value)
    (failures : List Error) :
    (firstHitAfter failures (earlier ++ read :: later)).run w =
      .ok value (afterEach (earlier ++ [read]) w) := by
  induction earlier generalizing w failures with
  | nil =>
    cases run : read.run w with
    | error e w₁ => cases (outcome_error run).symm.trans found
    | ok value' w₁ =>
      cases (outcome_ok run).symm.trans found
      simp only [List.nil_append, firstHitAfter, EStateM.run_bind, run_attempt, run,
        EStateM.run_pure, afterEach, List.foldl_cons, stateAfter_ok run, List.foldl_nil]
  | cons x earlier ih =>
    obtain ⟨first, further⟩ := List.pairwise_cons.1 independent
    cases run : x.run w with
    | ok value w₁ =>
      exact absurd (failure?_ok run) (missed x List.mem_cons_self)
    | error e w₁ =>
      have after := stateAfter_error run
      have missed' : ∀ y ∈ earlier, failure? y w₁ ≠ none := fun y listed => by
        rw [← after, failure?_later first w y (List.mem_append_left _ listed)]
        exact missed y (List.mem_cons_of_mem _ listed)
      have found' : outcome read w₁ = .ok value := by
        rw [← after, first read (List.mem_append_right _ List.mem_cons_self), found]
      simp only [List.cons_append, firstHitAfter, EStateM.run_bind, run_attempt, run,
        ih further missed' found', afterEach, List.foldl_cons, after]

/-- If all reads fail, each of them was tried. -/
theorem run_firstHitAfter_missed (independent : Independent reads)
    (missed : reads.map (failure? · w) = errors.map some) (failures : List Error) :
    (firstHitAfter failures reads).run w =
      .error (allReadsFailed (failures ++ errors)) (afterEach reads w) := by
  induction reads generalizing w errors failures with
  | nil =>
    cases errors with
    | nil => rw [List.append_nil]; rfl
    | cons e errors => cases missed
  | cons x reads ih =>
    obtain ⟨first, further⟩ := List.pairwise_cons.1 independent
    cases errors with
    | nil => cases missed
    | cons e errors =>
      obtain ⟨failed, rest⟩ := List.cons.inj missed
      cases run : x.run w with
      | ok value w₁ => cases (failure?_eq_some_iff.1 failed).symm.trans (outcome_ok run)
      | error e' w₁ =>
        cases (failure?_eq_some_iff.1 failed).symm.trans (outcome_error run)
        have after := stateAfter_error run
        have missed' : reads.map (failure? · w₁) = errors.map some := by
          rw [← rest, ← after]
          exact List.map_congr_left (failure?_later first w)
        simp only [firstHitAfter, EStateM.run_bind, run_attempt, run, ih further missed',
          List.append_assoc, List.singleton_append, afterEach, List.foldl_cons, after]

/-- The last failure decides whether the key is said to be absent. -/
theorem allReadsFailed_eq {last : Error} (ends : errors.getLast? = some last) :
    (if last.isNotFound then allReadsFailed errors = .notFound
      else Error.join? errors = some (allReadsFailed errors)) ∧
      (allReadsFailed errors).isNotFound = last.isNotFound := by
  cases absent : last.isNotFound with
  | true =>
    have unfound : allReadsFailed errors = .notFound := by
      rw [allReadsFailed, ends, Option.all_some, if_pos absent]
    rw [unfound]
    exact ⟨rfl, rfl⟩
  | false =>
    have joined : allReadsFailed errors = (Error.join? errors).getD .notFound := by
      rw [allReadsFailed, ends, Option.all_some, if_neg (by rw [absent]; exact Bool.false_ne_true)]
    rw [joined]
    rcases errors with _ | ⟨e, _ | ⟨second, rest⟩⟩
    · cases ends
    · cases ends
      exact ⟨rfl, absent⟩
    · exact ⟨rfl, rfl⟩

end Reads

/-! ## Copies -/

/-- What a request makes of the values under all keys if it is carried out. -/
def KeyRequest.effect (held : Bytes → Option Bytes) : KeyRequest → Bytes → Option Bytes
  | put key value => Function.update held key (some value)
  | get _ => held
  | del key => Function.update held key none

/-- A copy of a redundant store: how it is called and what it holds. -/
structure Replica where
  storage : Storage
  /-- The values under all keys. -/
  held : World → Bytes → Option Bytes
  /-- A request is carried out, or fails without effect. -/
  held_ask : ∀ (request : KeyRequest) w, held (stateAfter (request.ask storage) w) =
    match outcome (request.ask storage) w with
    | .ok _ => request.effect (held w)
    | .error _ => held w
  /-- What is only reported or counted is no value. -/
  held_noted : ∀ w events counters, held { w with events, counters } = held w

namespace Replica

/-- Requests to the one copy neither change what the other one holds nor what it answers. -/
structure Ignores (b c : Replica) : Prop where
  held : ∀ (request : KeyRequest) w, b.held (stateAfter (request.ask c.storage) w) = b.held w
  answers : ∀ (request other : KeyRequest) w,
    outcome (request.ask b.storage) (stateAfter (other.ask c.storage) w) =
      outcome (request.ask b.storage) w

def Apart (b c : Replica) : Prop := b.Ignores c ∧ c.Ignores b

/-- The failure with which a copy answers a request, if it fails. -/
def failure? (b : Replica) (request : KeyRequest) (w : World) : Option Error :=
  StoreGraph.failure? (request.ask b.storage) w

/-- A request is made to every copy, one after the other. -/
def tried (request : KeyRequest) (backs : List Replica) (w : World) : World :=
  afterEach (backs.map fun b => request.ask b.storage) w

variable {b : Replica} {backs : List Replica} {request : KeyRequest} {w : World}

theorem held_tried_of_ignores (ignores : ∀ c ∈ backs, b.Ignores c) (w : World) :
    b.held (tried request backs w) = b.held w := by
  induction backs generalizing w with
  | nil => rfl
  | cons c rest ih =>
    have later := ih (fun c listed => ignores c (List.mem_cons_of_mem _ listed))
      (stateAfter (request.ask c.storage) w)
    exact later.trans ((ignores c List.mem_cons_self).held request w)

/-- Every copy carries the request out, unless it fails. -/
theorem held_tried (apart : backs.Pairwise Apart) (listed : b ∈ backs) (w : World) :
    b.held (tried request backs w) =
      if b.failure? request w = none then request.effect (b.held w) else b.held w := by
  induction backs generalizing w with
  | nil => cases listed
  | cons c rest ih =>
    obtain ⟨first, later⟩ := List.pairwise_cons.1 apart
    have step : tried request (c :: rest) w =
      tried request rest (stateAfter (request.ask c.storage) w) := rfl
    rw [step]
    rcases List.mem_cons.1 listed with rfl | listed
    · rw [held_tried_of_ignores fun c listed => (first c listed).1, b.held_ask, failure?,
        StoreGraph.failure?.eq_1]
      cases outcome (request.ask b.storage) w <;> rfl
    · have ignores := (first b listed).2
      rw [ih later listed, failure?, StoreGraph.failure?.eq_1, ignores.answers, ignores.held]
      rfl

theorem independent_asks (apart : backs.Pairwise Apart) (request : KeyRequest) :
    Independent (backs.map fun b => request.ask b.storage) :=
  List.pairwise_map.2 (apart.imp fun both => both.2.answers request request)

/-- The failures of the copies that fail, each under what was done with which copy. -/
def failures (doing : String) (request : KeyRequest) (backs : List Replica) (w : World) :
    List Error :=
  (numbered doing backs).filterMap fun (doing, b) => (b.failure? request w).map (.context doing)

theorem length_failures (doing : String) (request : KeyRequest) (backs : List Replica) (w : World) :
    (failures doing request backs w).length =
      backs.countP fun b => (b.failure? request w).isSome := by
  rw [failures, List.length_filterMap_eq_countP]
  conv_rhs => rw [← map_snd_numbered doing backs, List.countP_map]
  exact List.countP_congr fun (doing, b) _ => by
    rw [Option.isSome_map]
    rfl

theorem failures_eq_nil_iff {doing : String} :
    failures doing request backs w = [] ↔ ∀ b ∈ backs, b.failure? request w = none := by
  rw [← List.length_eq_zero_iff, length_failures, List.countP_eq_zero]
  simp only [Option.not_isSome_iff_eq_none]

/-- One call to each copy, made for its effect: every copy is tried, and failures are collected. -/
theorem run_fanOut (request : KeyRequest) (call : Storage → StoreM Unit)
    (asks : ∀ s, request.ask s = do call s; return none) (apart : backs.Pairwise Apart)
    (doing : String) (w : World) :
    (gatherFailures (numbered doing (backs.map fun b => call b.storage))).run w =
      .ok (failures doing request backs w) (tried request backs w) := by
  have independent := independent_asks apart request
  simp only [asks] at independent
  have calls := independent.of_returned (Function.injective_of_subsingleton _)
  rw [← map_snd_numbered doing (backs.map _)] at calls
  rw [run_gatherFailures_independent calls, map_snd_numbered]
  congr 1
  · rw [failuresOf, numbered_map, List.filterMap_map]
    refine List.filterMap_congr fun (doing, b) _ => ?_
    simp only [Function.comp_apply, failure?, asks, failure?_return]
  · simp only [tried, asks, afterEach_returned]

end Replica

/-- A write with a quorum ends in the joined failures if too many copies fail, and counts them
    otherwise. There are failures to join: the demand is within the number of copies. -/
theorem Quorum.run_write {writes : List (StoreM Unit)} {failures : List Error} {w w₁ : World}
    (demand : Quorum) (within : demand.needed ≤ writes.length)
    (gathered : (gatherFailures (numbered "write to storage" writes)).run w = .ok failures w₁) :
    if demand.needed ≤ writes.length - failures.length then
      ∃ events, (demand.write writes).run w = .ok () { w₁ with
        events
        counters := { w₁.counters with
          writeFailures := w₁.counters.writeFailures + failures.length } }
    else ∃ e, Error.join? failures = some e ∧ (demand.write writes).run w = .error e w₁ := by
  have positive := demand.needed_pos
  by_cases enough : demand.needed ≤ writes.length - failures.length
  · rw [if_pos enough]
    cases failures with
    | nil =>
      refine ⟨w₁.events, ?_⟩
      simp only [Quorum.write, EStateM.run_bind, gathered, if_neg (Nat.not_lt.2 enough)]
      rfl
    | cons e failures =>
      let written := writes.length - (e :: failures).length
      refine ⟨w₁.events ++ [.writeDegraded written writes.length (e :: failures)], ?_⟩
      simp only [Quorum.write, EStateM.run_bind, gathered, if_neg (Nat.not_lt.2 enough)]
      rfl
  · rw [if_neg enough]
    have some : Error.join? failures ≠ none := by
      rw [Ne, Error.join?_eq_none_iff]
      rintro rfl
      exact enough within
    obtain ⟨e, joined⟩ := Option.ne_none_iff_exists'.1 some
    refine ⟨e, joined, ?_⟩
    simp only [Quorum.write, EStateM.run_bind, gathered, if_pos (Nat.lt_of_not_le enough), joined]
    rfl

/-! ## The store over the copies -/

/-- A redundant store over copies of which so many have to accept a write. -/
def quorumOver (demand : Quorum) (backs : List Replica) (dedup : DedupScheme) (offload : Storage) :
    Storage :=
  .redundant (.quorum demand) (backs.map (·.storage)) dedup offload

/-- The demands that are ever made of a number of copies: by whoever asks for all of them or for
    any, and by records. -/
inductive Demanded (copies : Nat) : Quorum → Prop where
  | all {demand} (built : Quorum.all copies = .ok demand) : Demanded copies demand
  | any : Demanded copies .any
  | recorded {name num demand} (built : Resolver.writeDemand name copies num = .ok demand) :
      Demanded copies demand

open Replica (tried failures)

/-- What becomes of a `put`. -/
structure PutOutcome (demand : Quorum) (backs : List Replica) (key value : Bytes)
    (put : StoreM Unit) (w : World) : Prop where
  /-- Every copy is called once, in order. Beyond that, only a report and a count are left. -/
  state : ∃ events counters,
    stateAfter put w = { tried (.put key value) backs w with events, counters }
  /-- The copies that do not fail hold the value, and the others what they held. -/
  held : ∀ b ∈ backs, b.held (stateAfter put w) =
    if b.failure? (.put key value) w = none then Function.update (b.held w) key (some value)
    else b.held w
  accepted : outcome put w = .ok () ↔
    demand.needed ≤ backs.countP fun b => (b.failure? (.put key value) w).isNone
  /-- The copies that miss a `put` which succeeds are counted. -/
  counted : outcome put w = .ok () → (stateAfter put w).counters =
    { (tried (.put key value) backs w).counters with
      writeFailures := (tried (.put key value) backs w).counters.writeFailures +
        backs.countP fun b => (b.failure? (.put key value) w).isSome }
  /-- A `put` that fails has the failures of all copies that fail, and there are some. -/
  refused : ∀ e, outcome put w = .error e →
    Error.join? (failures "write to storage" (.put key value) backs w) = some e ∧
      (stateAfter put w).counters = (tried (.put key value) backs w).counters

/-- What becomes of a `del`. -/
structure DelOutcome (backs : List Replica) (key : Bytes) (del : StoreM Unit) (w : World) :
    Prop where
  state : stateAfter del w = tried (.del key) backs w
  held : ∀ b ∈ backs, b.held (stateAfter del w) =
    if b.failure? (.del key) w = none then Function.update (b.held w) key none else b.held w
  accepted : outcome del w = .ok () ↔ ∀ b ∈ backs, b.failure? (.del key) w = none
  refused : ∀ e, outcome del w = .error e →
    Error.join? (failures "delete on storage" (.del key) backs w) = some e

/-- What becomes of a `get`. -/
structure GetOutcome (backs : List Replica) (key : Bytes) (get : StoreM Bytes) (w : World) :
    Prop where
  /-- The first copy that answers has been called last. -/
  found : ∀ earlier b later value, backs = earlier ++ b :: later →
    (∀ a ∈ earlier, a.failure? (.get key) w ≠ none) → outcome (b.storage.get key) w = .ok value →
    get.run w = .ok value (tried (.get key) (earlier ++ [b]) w)
  /-- If all copies fail, the last one decides whether the key is absent. -/
  missed : ∀ errors : List Error, backs.map (·.failure? (.get key) w) = errors.map some →
    ∃ e last, get.run w = .error e (tried (.get key) backs w) ∧ errors.getLast? = some last ∧
      e.isNotFound = last.isNotFound ∧
      if last.isNotFound then e = .notFound else Error.join? errors = some e

section Outcomes

variable {demand : Quorum} {backs : List Replica} {dedup : DedupScheme} {offload : Storage}
  {key value : Bytes} {w : World}

theorem Demanded.within (demanded : Demanded backs.length demand) (nonempty : 0 < backs.length) :
    1 ≤ demand.needed ∧ demand.needed ≤ backs.length := by
  refine ⟨demand.needed_pos, ?_⟩
  have ofNat_needed {n : Nat} {demand : Quorum} (built : Quorum.ofNat n = .ok demand) :
      demand.needed = n := by
    unfold Quorum.ofNat at built
    split at built
    · cases built
      rfl
    · cases built
  cases demanded with
  | all built => exact Nat.le_of_eq (ofNat_needed built)
  | any => exact nonempty
  | @recorded name num demand built =>
    cases num with
    | none => exact Nat.le_of_eq (ofNat_needed built)
    | some num =>
      unfold Resolver.writeDemand at built
      dsimp only at built
      split at built
      · cases built
      · rename_i enough
        rw [ofNat_needed built]
        exact Nat.le_of_not_lt enough

theorem countP_isNone_failure? (request : KeyRequest) (w : World) :
    (backs.countP fun b => (b.failure? request w).isNone) =
      backs.length - backs.countP fun b => (b.failure? request w).isSome := by
  have both := List.length_eq_countP_add_countP (fun b : Replica => (b.failure? request w).isSome)
    (l := backs)
  simp only [Bool.not_eq_true, Option.isSome_eq_false_iff] at both
  simp only [Bool.decide_eq_true] at both
  omega

theorem put_outcome (apart : backs.Pairwise Replica.Apart)
    (within : demand.needed ≤ backs.length) :
    PutOutcome demand backs key value ((quorumOver demand backs dedup offload).put key value)
      w := by
  have puts : (quorumOver demand backs dedup offload).put key value =
      demand.write (backs.map fun b => b.storage.put key value) := by
    simp only [quorumOver, Storage.redundant, ReplicaPolicy.quorum, List.map_map]
    rfl
  have gathered := Replica.run_fanOut (.put key value) (·.put key value) (fun _ => rfl)
    apart "write to storage" w
  have held : ∀ b ∈ backs, ∀ events counters,
      b.held { tried (.put key value) backs w with events, counters } =
        if b.failure? (.put key value) w = none then Function.update (b.held w) key (some value)
        else b.held w := fun b listed events counters => by
    rw [b.held_noted, Replica.held_tried apart listed]
    rfl
  have ends := demand.run_write (by rw [List.length_map]; exact within) gathered
  rw [← puts, List.length_map, Replica.length_failures, ← countP_isNone_failure?] at ends
  split at ends
  · rename_i enough
    obtain ⟨events, run⟩ := ends
    constructor
    · exact ⟨_, _, stateAfter_ok run⟩
    · rw [stateAfter_ok run]
      exact fun b listed => held b listed _ _
    · exact iff_of_true (outcome_ok run) enough
    · rw [stateAfter_ok run]
      exact fun _ => rfl
    · intro e failed
      cases (outcome_ok run).symm.trans failed
  · rename_i missing
    obtain ⟨e, joined, run⟩ := ends
    constructor
    · exact ⟨_, _, stateAfter_error run⟩
    · rw [stateAfter_error run]
      exact fun b listed => held b listed _ _
    · refine iff_of_false (fun succeeded => ?_) missing
      cases (outcome_error run).symm.trans succeeded
    · intro succeeded
      cases (outcome_error run).symm.trans succeeded
    · intro e' failed
      cases (outcome_error run).symm.trans failed
      exact ⟨joined, by rw [stateAfter_error run]⟩

theorem del_outcome (apart : backs.Pairwise Replica.Apart) :
    DelOutcome backs key ((quorumOver demand backs dedup offload).del key) w := by
  have dels : (quorumOver demand backs dedup offload).del key =
      gatherFailures (numbered "delete on storage" (backs.map fun b => b.storage.del key)) >>=
        fun failures => ofExcept (Error.ofFailures failures) := by
    simp only [quorumOver, Storage.redundant, List.map_map]
    rfl
  have gathered := Replica.run_fanOut (.del key) (·.del key) (fun _ => rfl)
    apart "delete on storage" w
  have ends : stateAfter ((quorumOver demand backs dedup offload).del key) w =
        tried (.del key) backs w ∧
      outcome ((quorumOver demand backs dedup offload).del key) w =
        Error.ofFailures (failures "delete on storage" (.del key) backs w) := by
    rw [dels, stateAfter, outcome, EStateM.run_bind, gathered]
    dsimp only
    cases Error.ofFailures (failures "delete on storage" (.del key) backs w) <;> exact ⟨rfl, rfl⟩
  obtain ⟨state, answer⟩ := ends
  refine ⟨state, fun b listed => ?_, ?_, fun e failed => ?_⟩
  · rw [state, Replica.held_tried apart listed]
    rfl
  · rw [answer, Error.ofFailures, ← Replica.failures_eq_nil_iff, ← Error.join?_eq_none_iff]
    cases Error.join? (failures "delete on storage" (.del key) backs w) <;> simp
  · rw [answer, Error.ofFailures] at failed
    cases joined : Error.join? (failures "delete on storage" (.del key) backs w) with
    | none => rw [joined] at failed; cases failed
    | some e' => rw [joined] at failed; cases failed; rfl

theorem get_outcome (apart : backs.Pairwise Replica.Apart) (nonempty : 0 < backs.length) :
    GetOutcome backs key ((quorumOver demand backs dedup offload).get key) w := by
  have gets : (quorumOver demand backs dedup offload).get key =
      firstHit (backs.map fun b => b.storage.get key) := by
    simp only [quorumOver, Storage.redundant, ReplicaPolicy.quorum, List.map_map]
    rfl
  have asks : ∀ s : Storage,
      (KeyRequest.get key).ask s = do let value ← s.get key; return some value :=
    fun _ => rfl
  have independent : Independent (backs.map fun b => b.storage.get key) :=
    (Replica.independent_asks apart (.get key)).of_returned (fun _ _ same => Option.some.inj same)
  have failing : ∀ b : Replica,
      StoreGraph.failure? (b.storage.get key) w = b.failure? (.get key) w :=
    fun b => (failure?_return _ _ w).symm
  have states : ∀ bs : List Replica,
      afterEach (bs.map fun b => b.storage.get key) w = tried (.get key) bs w :=
    fun bs => (afterEach_returned _ _ bs w).symm
  rw [gets, firstHit]
  constructor
  · rintro earlier b later value rfl missed found
    rw [List.map_append, List.map_cons] at independent ⊢
    have missed' : ∀ x ∈ earlier.map fun b => b.storage.get key,
        StoreGraph.failure? x w ≠ none := by
      intro x listed
      obtain ⟨a, before, rfl⟩ := List.mem_map.1 listed
      rw [failing]
      exact missed a before
    rw [run_firstHitAfter_found independent missed' found, ← states, List.map_append]
    rfl
  · intro errors missed
    have missed' : (backs.map fun b => b.storage.get key).map (StoreGraph.failure? · w) =
        errors.map some := by
      rw [← missed, List.map_map]
      exact List.map_congr_left fun b _ => failing b
    have lengths := congrArg List.length missed
    rw [List.length_map, List.length_map] at lengths
    obtain ⟨last, ends⟩ : ∃ last, errors.getLast? = some last :=
      Option.ne_none_iff_exists'.1 fun none => by
        rw [List.getLast?_eq_none_iff.1 none, List.length_nil] at lengths
        omega
    obtain ⟨joined, absent⟩ := allReadsFailed_eq ends
    refine ⟨allReadsFailed errors, last, ?_, ends, absent, joined⟩
    rw [run_firstHitAfter_missed independent missed', List.nil_append, states]

/-- Whatever combination of its copies fails, without effect: a redundant store tries every copy for
    a `put` or a `del`, which succeeds if enough copies do, or all of them, and otherwise reports
    the failures of exactly the copies that fail; a `get` stops at the first copy that answers. The
    demands that are ever made are within the number of copies. -/
theorem quorum_under_failures (apart : backs.Pairwise Replica.Apart)
    (within : demand.needed ≤ backs.length) (dedup : DedupScheme) (offload : Storage)
    (key value : Bytes) (w : World) :
    PutOutcome demand backs key value ((quorumOver demand backs dedup offload).put key value) w ∧
      DelOutcome backs key ((quorumOver demand backs dedup offload).del key) w ∧
      GetOutcome backs key ((quorumOver demand backs dedup offload).get key) w ∧
      ∀ other, Demanded backs.length other → 1 ≤ other.needed ∧ other.needed ≤ backs.length :=
  have nonempty := Nat.lt_of_lt_of_le demand.needed_pos within
  ⟨put_outcome apart within, del_outcome apart, get_outcome apart nonempty,
    fun _ demanded => demanded.within nonempty⟩

end Outcomes

/-! ## Plain stores as copies -/

namespace PlainStore

/-- The values that a plain store keeps. -/
def values : SortedMap Bytes Bytes ⊕ Probe → Bytes → Option Bytes
  | .inl entries => entries.get?
  | .inr p => p.entries.get?

theorem get?_requested (request : KeyRequest) (entries : SortedMap Bytes Bytes) :
    (request.apply entries).get? = request.effect entries.get? := by
  funext key
  cases request with
  | get wanted => rfl
  | put key' value =>
    rw [KeyRequest.effect, KeyRequest.apply, SortedMap.get?_insert, Function.update_apply]
  | del key' =>
    rw [KeyRequest.effect, KeyRequest.apply, SortedMap.get?_erase, Function.update_apply]

theorem values_apply (request : KeyRequest) (kept : SortedMap Bytes Bytes ⊕ Probe) :
    values (apply request kept) = match answer request kept with
      | .ok _ => request.effect (values kept)
      | .error _ => values kept := by
  -- Only a `get` fails where nothing keeps it from being carried out.
  have carried (entries : SortedMap Bytes Bytes) : request.effect entries.get? =
      match request.answer entries with
      | .ok _ => request.effect entries.get?
      | .error _ => entries.get? := by
    cases request with
    | put key value | del key => rfl
    | get key =>
      simp only [KeyRequest.answer, KeyRequest.effect]
      cases entries.get? key <;> rfl
  cases kept with
  | inl entries => exact (get?_requested request entries).trans (carried entries)
  | inr p =>
    simp only [values, apply, answer, KeyRequest.applyProbe, KeyRequest.probeAnswer]
    cases (FaultRule.consult request.call.op request.call.key? p.rules).1 with
    | some e => rfl
    | none => exact (get?_requested request p.entries).trans (carried p.entries)

/-- A plain store as a copy. -/
def replica (p : PlainStore) : Replica where
  storage := p.store.storage
  held w := values (p.kept w)
  held_ask request w := by
    obtain ⟨answered, kept, -⟩ := p.asks request w
    rw [answered, kept]
    exact values_apply request _
  held_noted w events counters := by cases p <;> rfl

theorem ignores_of_apart {p q : PlainStore} (apart : p.Apart q) : q.replica.Ignores p.replica where
  held request w := congrArg values ((p.asks request w).2.2.1 q apart)
  answers request other w := by
    change outcome (request.ask q.store.storage) _ = outcome (request.ask q.store.storage) w
    rw [(q.asks request _).1, (q.asks request w).1]
    exact congrArg (answer request) ((p.asks other w).2.2.1 q apart)

/-- Plain stores in cells of their own are copies that take no notice of each other. -/
theorem apart_replicas {backs : List PlainStore} (apart : backs.Pairwise Apart) :
    (backs.map replica).Pairwise Replica.Apart :=
  List.pairwise_map.2 (apart.imp fun apart => ⟨ignores_of_apart apart.symm, ignores_of_apart apart⟩)

end PlainStore

/-- Two of the five copies are enough, and two accept writes. -/
def twoOfFive : Storage :=
  quorumOver ⟨2, by decide⟩ (fiveCopies.map PlainStore.replica) (.offloaded ⟨0⟩) .nop

theorem quorum_under_failures_of_three :
    (fiveCopies.map PlainStore.replica).Pairwise Replica.Apart ∧
      2 ≤ (fiveCopies.map PlainStore.replica).length ∧
      outcome (twoOfFive.put [1] [2]) degraded = .ok () ∧
      (stateAfter (twoOfFive.put [1] [2]) degraded).counters.writeFailures = 3 ∧
      (∀ b ∈ fiveCopies.map PlainStore.replica,
        b.held (stateAfter (twoOfFive.put [1] [2]) degraded) =
          if b.failure? (.put [1] [2]) degraded = none then
            Function.update (b.held degraded) [1] (some [2])
          else b.held degraded) ∧
      outcome (twoOfFive.del [1]) degraded = .ok () ∧
      ∃ e w', (twoOfFive.get [1]).run degraded = .error e w' ∧ e = .notFound := by
  have apart : (fiveCopies.map PlainStore.replica).Pairwise Replica.Apart :=
    PlainStore.apart_replicas (by decide)
  have within : 2 ≤ (fiveCopies.map PlainStore.replica).length := by decide
  obtain ⟨put, del, get, -⟩ := @quorum_under_failures ⟨2, by decide⟩ _ apart within (.offloaded ⟨0⟩)
    .nop [1] [2] degraded
  have accepted : outcome (twoOfFive.put [1] [2]) degraded = .ok () := put.accepted.2 (by decide)
  obtain ⟨e, last, run, ends, -, absent⟩ := get.missed
    [.notFound, .notFound, .notFound, .notFound, .notFound] rfl
  cases ends
  exact ⟨apart, within, accepted, congrArg Counters.writeFailures (put.counted accepted), put.held,
    del.accepted.2 (by decide), e, _, run, absent⟩

end StoreGraph
