import StoreGraph.Proofs.Redundant.Once
import StoreGraph.Storage.Sharded

/-! # Stores that heed their visitors

A store heeds its visitors if each of its enumerations is a sequence of calls that ends with the
first one that fails, and then with this very failure. In-memory stores do so, and probes that are
not stubborn. What is built over such stores does so too, however deep (`Nested.heeds`): shards
whether ready or opened on the way, and copies, whatever the dedup answers and however it fails. So
no layer adds anything to a visitor's failure (`visitor_failure_passes`).
-/

namespace StoreGraph

section Showing

variable {τ α : Type} {visit : Bytes → VisitM τ Unit}

/-- The action calls the visitor some times, until it fails, and ends with the failure if there is
    one. -/
def Showing (visit : Bytes → VisitM τ Unit) (x : VisitM τ Unit) : Prop :=
  ∀ s, ∃ keys ending s', Shows (fun _ _ => True) visit s keys ending s' ∧
    x.run s = ending.result s'

namespace Showing

theorem pure : Showing visit (pure ()) := fun (w, t) =>
  ⟨[], .finished (.ok ()), (w, t), .finish _ trivial, rfl⟩

theorem call (key : Bytes) : Showing visit (visit key) := fun (w, t) => by
  cases called : (visit key).run (w, t) with
  | ok _ s =>
    obtain ⟨w', t'⟩ := s
    exact ⟨[key], .finished (.ok ()), (w', t'), .shown trivial called (.finish _ trivial), rfl⟩
  | error e s => exact ⟨[key], .stopped e, s, .stop trivial called trivial, rfl⟩

/-- What the store does on its own before does not matter. -/
theorem after {x : StoreM α} {f : α → VisitM τ Unit} (further : ∀ a, Showing visit (f a)) :
    Showing visit (StoreM.visiting x >>= f) := fun (w, t) => by
  simp only [EStateM.run_bind, StoreM.run_visiting]
  cases x.run w with
  | error e w' => exact ⟨[], .finished (.error e), (w', t), .finish _ trivial, rfl⟩
  | ok a w' =>
    obtain ⟨keys, ending, s', shows, run⟩ := further a (w', t)
    exact ⟨keys, ending, s', shows.prepend (fun _ _ _ _ _ => trivial) trivial, run⟩

theorem seq {x y : VisitM τ Unit} (first : Showing visit x) (second : Showing visit y) :
    Showing visit (x >>= fun _ => y) := fun s => by
  obtain ⟨keys, ending, s₁, shows, run⟩ := first s
  simp only [EStateM.run_bind, run]
  cases ending with
  | stopped e => exact ⟨keys, .stopped e, s₁, shows, rfl⟩
  | finished outcome =>
    cases outcome with
    | error e => exact ⟨keys, .finished (.error e), s₁, shows, rfl⟩
    | ok _ =>
      obtain ⟨later, ending, s', shows', run'⟩ := second s₁
      exact ⟨keys ++ later, ending, s', shows.append (fun _ _ _ _ _ => trivial) shows', run'⟩

theorem forM {xs : List α} {f : α → VisitM τ Unit} (each : ∀ a ∈ xs, Showing visit (f a)) :
    Showing visit (xs.forM f) := by
  induction xs with
  | nil => exact .pure
  | cons a rest ih =>
    exact .seq (each a List.mem_cons_self)
      (ih fun b listed => each b (List.mem_cons_of_mem _ listed))

end Showing

end Showing

namespace Storage

/-- Every visitor is called until it fails, and its failure is the result. -/
def Heeds (s : Storage) : Prop :=
  ∀ {τ : Type} (visit : Bytes → VisitM τ Unit), Showing visit (s.keys visit)

theorem heeds_nop : nop.Heeds := fun _ => .pure

theorem heeds_memory (cell : Ref .memory) : (memory cell).Heeds := fun _ =>
  .after fun _ => .forM fun key _ => .call key

theorem heeds_probe (cell : Ref .probe) {traits : ProbeTraits} (heeding : traits.stubborn = false) :
    (probe cell traits).Heeds := fun visit => by
  simp only [probe, heeding, Bool.false_eq_true, if_false]
  exact .after fun _ => .after fun _ => .forM fun key _ => .after fun _ => .call key

theorem heeds_sharded (pool : ShardPool) {stock : List Storage} (each : ∀ s ∈ stock, s.Heeds) :
    (sharded pool stock).Heeds := fun visit => by
  have shard : ∀ slot : Slot, (slot.choose stock memory nop).Heeds := by
    intro slot
    cases slot with
    | fresh cell => exact heeds_memory cell
    | stocked position =>
      rw [Slot.choose]
      cases found : stock[position]? with
      | none => exact heeds_nop
      | some s => exact each s (List.mem_of_getElem? found)
  exact .forM fun index _ => .after fun slot => shard slot visit

section Redundant

variable {τ : Type} {visit : Bytes → VisitM τ Unit} {offload : Storage} {dedup : DedupScheme}

/-- Copies are enumerated one after the other, until the visitor or the dedup stops one of them. A
    copy that fails on its own stops nothing. -/
theorem showing_sweep (offload : Storage) (dedup : DedupScheme) (visit : Bytes → VisitM τ Unit)
    {backs : List (String × Storage)} (each : ∀ back ∈ backs, back.2.Heeds) (s : World × τ) :
    ∃ keys ending s' swept, Shows (fun _ _ => True) visit s keys ending s' ∧
      (sweep offload dedup visit backs).run s = .ok swept s' ∧
      (swept.stopped = none ∧ ending = .finished (.ok ()) ∨
        ∃ e, swept.stopped = some e ∧ (ending = .stopped e ∨ ending = .finished (.error e))) := by
  induction backs generalizing s with
  | nil => exact ⟨[], .finished (.ok ()), s, {}, .finish _ trivial, rfl, .inl ⟨rfl, rfl⟩⟩
  | cons back rest ih =>
    obtain ⟨doing, back⟩ := back
    obtain ⟨w, t⟩ := s
    obtain ⟨keys, ending, stop, course, run⟩ :=
      each (doing, back) List.mem_cons_self (visitOnce offload dedup visit) (w, t, false)
    obtain ⟨shown, inner, shows, flag, finished, stopped⟩ := course.through_once
    have later := ih (fun back listed => each back (List.mem_cons_of_mem _ listed))
      (stop.1, stop.2.1)
    simp only [sweep, EStateM.run_bind, VisitM.run_withState, run]
    cases ending with
    | stopped e =>
      simp only [Ending.result, flag]
      exact ⟨shown, inner, (stop.1, stop.2.1), ⟨some e, []⟩, shows, rfl,
        .inr ⟨e, rfl, stopped e rfl⟩⟩
    | finished outcome =>
      -- Nobody stopped this copy. If it failed, then on its own, and the next ones are asked.
      obtain ⟨keys', ending', s', swept, shows', run', ends⟩ := later
      rw [finished outcome rfl] at shows
      have both := shows.append (fun _ _ _ _ _ => trivial) shows'
      cases outcome with
      | ok _ =>
        simp only [Ending.result, run']
        exact ⟨shown ++ keys', ending', s', swept, both, rfl, ends⟩
      | error e =>
        simp only [Ending.result, flag, Ending.stoppedWith?, Option.isSome_none, EStateM.run_bind,
          run', EStateM.run_pure]
        exact ⟨shown ++ keys', ending', s', _, both, rfl, ends⟩

theorem run_gatherFailures_ok (actions : List (String × StoreM Unit)) (w : World) :
    ∃ failures w', (gatherFailures actions).run w = .ok failures w' := by
  induction actions generalizing w with
  | nil => exact ⟨[], w, rfl⟩
  | cons action rest ih =>
    simp only [gatherFailures, EStateM.run_bind, run_attempt]
    cases action.2.run w with
    | ok _ w₁ => exact ih w₁
    | error e w₁ =>
      obtain ⟨failures, w', run⟩ := ih w₁
      exact ⟨_, w', by simp only [EStateM.run_bind, run]; rfl⟩

theorem run_reset_ok (dedup : DedupScheme) (w : World) : ∃ w', dedup.reset.run w = .ok () w' := by
  cases dedup with
  | naive ages limits => exact ⟨w, rfl⟩
  | offloaded token => exact ⟨_, rfl⟩

/-- The dedup may do as it likes: a failure to clear it comes after a visitor's failure. -/
theorem heeds_redundant (policy : ReplicaPolicy) (dedup : DedupScheme) (offload : Storage)
    {backs : List Storage} (each : ∀ s ∈ backs, s.Heeds) :
    (redundant policy backs dedup offload).Heeds := fun visit s => by
  have named : ∀ back ∈ numbered "keys of storage" backs, back.2.Heeds := by
    rintro back listed
    obtain ⟨⟨s, index⟩, member, rfl⟩ := List.mem_map.mp listed
    exact each s (List.fst_mem_of_mem_zipIdx member)
  obtain ⟨keys, ending, ⟨w₁, t₁⟩, swept, shows, run, ends⟩ :=
    showing_sweep offload dedup visit named s
  obtain ⟨failures, w₂, cleared⟩ :=
    run_gatherFailures_ok [("clear iteration dedup", dedup.clear offload)] w₁
  obtain ⟨w₃, reset⟩ := run_reset_ok dedup w₂
  have tidied : Shows (fun _ _ => True) visit s keys ending (w₃, t₁) :=
    shows.extend (fun _ _ _ _ _ => trivial) trivial
  simp only [redundant, EStateM.run_bind, run, StoreM.run_visiting, cleared, reset]
  obtain ⟨unstopped, rfl⟩ | ⟨e, stopped, rfl | rfl⟩ := ends
  · rw [unstopped]
    let outcome := Error.ofFailures (swept.failures ++ failures)
    have finish : Shows (fun _ _ => True) visit s (keys ++ []) (.finished outcome) (w₃, t₁) :=
      tidied.append (fun _ _ _ _ _ => trivial) (.finish outcome trivial)
    refine ⟨_, _, _, finish, ?_⟩
    change (ofExcept outcome).run (w₃, t₁) = _
    cases outcome with
    | ok _ => rfl
    | error e => rfl
  · rw [stopped]
    exact ⟨keys, .stopped e, (w₃, t₁), tidied, rfl⟩
  · rw [stopped]
    exact ⟨keys, .finished (.error e), (w₃, t₁), tidied, rfl⟩

end Redundant

end Storage

/-- A store that is built, in shards or in copies, over stores that heed their visitors. -/
inductive Nested : Storage → Prop where
  | leaf {s} (heeds : s.Heeds) : Nested s
  | sharded (pool : ShardPool) {stock : List Storage} (each : ∀ s ∈ stock, Nested s) :
      Nested (Storage.sharded pool stock)
  | redundant (policy : ReplicaPolicy) (dedup : DedupScheme) (offload : Storage)
      {backs : List Storage} (each : ∀ s ∈ backs, Nested s) :
      Nested (Storage.redundant policy backs dedup offload)

theorem Nested.heeds {s : Storage} (nested : Nested s) : s.Heeds := by
  induction nested with
  | leaf heeds => exact heeds
  | sharded pool _ ih => exact Storage.heeds_sharded pool ih
  | redundant policy dedup offload _ ih => exact Storage.heeds_redundant policy dedup offload ih

/-! ## A record of the calls -/

/-- A visitor of which every call is recorded beside its state, with what it answered. -/
def recording {τ : Type} (visit : Bytes → VisitM τ Unit) (key : Bytes) :
    VisitM (τ × List (Bytes × Except Error Unit)) Unit := do
  let answer ← attempt (VisitM.besides (visit key))
  VisitM.note fun (t, calls) => (t, calls ++ [(key, answer)])
  ofExcept answer

section Recording

variable {τ : Type} {visit : Bytes → VisitM τ Unit}

theorem run_recording (key : Bytes) (w : World) (t : τ) (calls : List (Bytes × Except Error Unit)) :
    (recording visit key).run (w, t, calls) =
      match (visit key).run (w, t) with
      | .ok _ s => .ok () (s.1, s.2, calls ++ [(key, .ok ())])
      | .error e s => .error e (s.1, s.2, calls ++ [(key, .error e)]) := by
  simp only [recording, EStateM.run_bind, run_attempt, VisitM.run_besides]
  cases (visit key).run (w, t) with
  | ok _ s => rfl
  | error e s => rfl

/-- A call that failed is the last one, and its failure has stopped the enumeration. -/
theorem Shows.recorded {between : World → World → Prop} {keys : List Bytes} {ending : Ending}
    {w : World} {t : τ} {calls : List (Bytes × Except Error Unit)}
    {after : World × τ × List (Bytes × Except Error Unit)}
    (shows : Shows between (recording visit) (w, t, calls) keys ending after) :
    ∃ made, after.2.2 = calls ++ made ∧
      ∀ earlier key e later, made = earlier ++ (key, .error e) :: later →
        later = [] ∧ ending = .stopped e := by
  generalize begins : (w, t, calls) = start at shows
  induction shows generalizing w t calls with
  | finish outcome quiet =>
    cases begins
    refine ⟨[], (List.append_nil calls).symm, fun earlier key e later split => ?_⟩
    cases earlier <;> cases split
  | @shown w₀ w₁ u key s keys ending after quiet call rest ih =>
    cases begins
    rw [run_recording] at call
    cases called : (visit key).run (w₁, t) with
    | error e s' =>
      rw [called] at call
      cases call
    | ok _ s' =>
      rw [called] at call
      cases call
      obtain ⟨made, record, last⟩ := ih rfl
      refine ⟨(key, .ok ()) :: made, by rw [record, List.append_assoc]; rfl, ?_⟩
      intro earlier key' e later split
      cases earlier with
      | nil => cases split
      | cons first earlier => exact last earlier key' e later (List.cons.inj split).2
  | @stop w₀ w₁ w₂ w₃ u u' key e quiet call ended =>
    cases begins
    rw [run_recording] at call
    cases called : (visit key).run (w₁, t) with
    | ok _ s' =>
      rw [called] at call
      cases call
    | error e' s' =>
      rw [called] at call
      cases call
      refine ⟨[(key, .error e)], rfl, fun earlier key' e' later split => ?_⟩
      cases earlier with
      | nil =>
        cases split
        exact ⟨rfl, rfl⟩
      | cons first earlier => cases earlier <;> cases (List.cons.inj split).2

/-- However deep a store is nested, and whatever else fails on the way: once the visitor has failed
    it is not called any more, and its failure is the result as it stands. -/
theorem visitor_failure_passes {s : Storage} (nested : Nested s) (visit : Bytes → VisitM τ Unit)
    (w : World) (t : τ) :
    let after := stateAfter (s.keys (recording visit)) (w, t, [])
    ∀ earlier key e later, after.2.2 = earlier ++ (key, .error e) :: later →
      later = [] ∧ (s.keys (recording visit)).run (w, t, []) = .error e after := by
  obtain ⟨keys, ending, after, shows, run⟩ := nested.heeds (recording visit) (w, t, [])
  obtain ⟨made, record, last⟩ := shows.recorded
  rw [Ending.stateAfter_of_run run]
  intro after' earlier key e later split
  obtain ⟨none, rfl⟩ := last earlier key e later (record.symm.trans split)
  exact ⟨none, run⟩

end Recording

/-- Shards in memory, opened when they are needed. -/
def innerShards : Storage :=
  .sharded ⟨⟨0⟩, fun _ => 0, 2, .onDemand fun _ _ => none⟩ [.memory ⟨1⟩]

/-- Three copies, the first of which fails to show its keys; the dedup cannot be cleared. -/
def outerCopies : Storage :=
  .redundant (.quorum .any) [.probe ⟨0⟩ {}, innerShards, .memory ⟨2⟩] (.offloaded ⟨0⟩)
    (.probe ⟨1⟩ { clearable := true })

def failingWorld : World :=
  let w : World := { randomness := fun _ => 0 }
  let w := w.changeMemory ⟨1⟩ fun m => ((m.put [1] []).put [2] []).put [3] []
  let w := w.changeMemory ⟨2⟩ fun m => m.put [4] []
  { w with
    probes := (w.probes.set ⟨0⟩ { rules := [{ op := .keys, error := .backend "down" }] }).set ⟨1⟩
      { rules := [{ op := .clear, error := .backend "stuck" }] } }

/-- A visitor that has seen enough at the second key. -/
def untilSecond (key : Bytes) : VisitM Unit Unit :=
  if key = [2] then throw (.backend "enough") else pure ()

/-- Two layers fail. A visitor that never fails gets to know of both, one that fails of neither. -/
theorem visitor_failure_passes_failing_layers :
    let after := stateAfter (outerCopies.keys (recording untilSecond)) (failingWorld, (), [])
    Nested outerCopies ∧
      outcome (outerCopies.keys fun _ => (pure () : VisitM Unit Unit)) (failingWorld, ()) =
        .error (.aggregated [.context "keys of storage 0" (.backend "down"),
          .context "clear iteration dedup" (.backend "stuck")]) ∧
      after.2.2 = [([1], .ok ())] ++ ([2], .error (.backend "enough")) :: [] ∧
      (outerCopies.keys (recording untilSecond)).run (failingWorld, (), []) =
        .error (.backend "enough") after := by
  intro after
  have inner : Nested innerShards := .sharded _ fun s listed => by
    obtain rfl := List.mem_singleton.mp listed
    exact .leaf (Storage.heeds_memory ⟨1⟩)
  have nested : Nested outerCopies := .redundant _ _ _ fun s listed => by
    simp only [List.mem_cons, List.not_mem_nil, or_false] at listed
    obtain rfl | rfl | rfl := listed
    · exact .leaf (Storage.heeds_probe ⟨0⟩ rfl)
    · exact inner
    · exact .leaf (Storage.heeds_memory ⟨2⟩)
  have calls : after.2.2 = [([1], .ok ())] ++ ([2], .error (.backend "enough")) :: [] := by rfl
  obtain ⟨-, run⟩ := visitor_failure_passes nested untilSecond failingWorld () _ _ _ _ calls
  exact ⟨nested, rfl, calls, run⟩

end StoreGraph
