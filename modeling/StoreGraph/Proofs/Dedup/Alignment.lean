import StoreGraph.Proofs.Dedup.Session

/-! # Ages and store in step

A run opens a naive dedup on a store and saves one key after the other, where the store may refuse
any write. After every save, however it ended, the ages that the dedup holds are those of its store
(`ages_stay_aligned`). A refused key leaves no trace. An eviction that got stuck has dropped the
oldest keys up to there, and the next save that meets no refusal drops the rest of the excess.
-/

namespace StoreGraph

namespace DedupScheme

/-- A save with its answer, and the worlds before and after it. -/
structure Turn where
  key : Bytes
  answer : Except Error Unit
  before : World
  after : World

/-- The save of a key in a world. -/
def saving (p : PlainStore) (maxKeys cleanFactor : Nat) (ages : Ref .ages) (key : Bytes)
    (before : World) : Turn :=
  let action := save p.store.storage key (.naive ages ⟨maxKeys, maxKeys * cleanFactor⟩)
  ⟨key, outcome action before, before, stateAfter action before⟩

/-- Runs of saves over a store that may refuse writes. Between two saves the store may change its
    mind about what it refuses, and whatever leaves its entries and the ages alone may happen. -/
inductive Ran (p : PlainStore) (maxKeys cleanFactor : Nat) (ages : Ref .ages) :
    List Turn → World → Prop where
  | opened {w now} (serving : p.Serving w) (room : newest (p.entries w) + 1 < UInt64.size)
      (run : (Dedup.newNaive p.store maxKeys cleanFactor).run w =
        .ok ⟨.naive ages ⟨maxKeys, maxKeys * cleanFactor⟩, p.store⟩ now) :
      Ran p maxKeys cleanFactor ages [] now
  | saved {turns now} (earlier : Ran p maxKeys cleanFactor ages turns now) (key : Bytes) :
      Ran p maxKeys cleanFactor ages (turns ++ [saving p maxKeys cleanFactor ages key now])
        (saving p maxKeys cleanFactor ages key now).after
  | meanwhile {turns now later} (earlier : Ran p maxKeys cleanFactor ages turns now)
      (entries : p.entries later = p.entries now) (same : later.ages.get ages = now.ages.get ages)
      (serving : p.Serving later) : Ran p maxKeys cleanFactor ages turns later

/-- By age and by key the ages say the same, and of each key once, namely what the store holds. The
    next number is beyond all of theirs. -/
structure Aligned (p : PlainStore) (ages : Ref .ages) (w : World) : Prop where
  coherent : (w.ages.get ages).Coherent
  single : ((w.ages.get ages).byAge.keys.map (·.2)).Nodup
  stored : ∀ key, (w.ages.get ages).sequenceOf.get? key =
    ((p.entries w).get? key).map markerSequence
  beyond : ∀ key sequence, (w.ages.get ages).sequenceOf.get? key = some sequence →
    sequence < (w.ages.get ages).next

namespace Turn

variable (turn : Turn) (p : PlainStore) (ages : Ref .ages)

/-- The failure with which the store refuses to store the key, if it does. -/
def refusal? : Option Error := p.refusal? turn.before (.put turn.key (marker ages turn.before))

/-- A key that is stored leaves a number for the next one. -/
def Fits : Prop :=
  turn.refusal? p ages = none → (turn.before.ages.get ages).next.toNat + 1 < UInt64.size

/-- The entries once the key is stored, before any is dropped. -/
def stored : SortedMap Bytes Bytes :=
  (p.entries turn.before).insert turn.key (marker ages turn.before)

/-- Whichever write of a save was refused, it is known what the save has done. -/
structure Accounted (maxKeys cleanFactor : Nat) : Prop where
  aligned : Aligned p ages turn.after
  /-- If the key is not stored, nothing happens but that the store may have recorded the call. -/
  refused : ∀ e, turn.refusal? p ages = some e →
    turn.answer = .error e ∧ p.Looks turn.before turn.after
  /-- If an oldest key is not dropped, the older ones are gone and all others are left. -/
  stuck : ∀ e, turn.refusal? p ages = none → turn.answer = .error e →
    ∃ n < (turn.stored p ages).size - maxKeys,
      p.entries turn.after = withoutOldest n (turn.stored p ages) ∧
      aged (p.entries turn.after) = (aged (turn.stored p ages)).drop n
  kept : turn.refusal? p ages = none →
    (p.entries turn.after).get? turn.key = some (marker ages turn.before)
  /-- Whatever was left over before, there are not too many keys after a save that succeeds. -/
  bounded : turn.answer = .ok () →
    (p.entries turn.after).size ≤ max maxKeys (maxKeys * cleanFactor - 1)
  recovers : p.Faultless turn.before → turn.answer = .ok ()

end Turn

section Entries

variable {entries : SortedMap Bytes Bytes} {limits : KeepLimits} {n : Nat} {key value : Bytes}

theorem size_eq_length_aged (entries : SortedMap Bytes Bytes) :
    entries.size = (aged entries).length := by
  rw [aged, List.length_mergeSort, List.length_map, SortedMap.size]

/-- Dropping keys changes no marker. -/
theorem get?_of_withoutOldest (held : (withoutOldest n entries).get? key = some value) :
    entries.get? key = some value := by
  induction n generalizing entries with
  | zero => exact held
  | succ n ih =>
    rw [withoutOldest] at held
    cases first : aged entries with
    | nil =>
      rw [first] at held
      exact held
    | cons oldest rest =>
      rw [first] at held
      have before := ih held
      rw [SortedMap.get?_erase] at before
      split at before
      · cases before
      · exact before

/-- The saved key is left, with the marker it was stored with. -/
theorem get?_trimmed (room : newest entries + 1 < UInt64.size)
    (fewer : n < (aged (stamped key entries)).length) :
    (withoutOldest n (stamped key entries)).get? key = (stamped key entries).get? key := by
  have last : (UInt64.ofNat (newest entries + 1), key) ∈
      aged (withoutOldest n (stamped key entries)) := by
    rw [aged_trimmed room fewer]
    exact List.mem_append_right _ List.mem_cons_self
  obtain ⟨value, held, -⟩ := Option.map_eq_some_iff.mp (mem_aged.mp last)
  rw [held, get?_of_withoutOldest held]

theorem size_savedIn_le (room : newest entries + 1 < UInt64.size) (key : Bytes) :
    (savedIn limits key entries).size ≤ max limits.maxKeys (limits.threshold - 1) := by
  have short : (limits.remember (order entries) key).length ≤ _ :=
    KeepLimits.length_remember_le (order entries) key
  rw [← order_savedIn room, order, List.length_map] at short
  rwa [size_eq_length_aged]

end Entries

section Runs

variable {p : PlainStore} {ages : Ref .ages} {maxKeys cleanFactor : Nat} {w now : World}
  {turns : List Turn} {turn : Turn}

theorem Aligned.of_ready (ready : Ready p ages w) : Aligned p ages w where
  coherent := ready.tracks.coherent
  single := by
    rw [ready.tracks.keys]
    exact keys_aged_nodup (p.entries w)
  stored := ready.tracks.sequences
  beyond key sequence known := by
    rw [ready.tracks.sequences] at known
    rw [UInt64.lt_iff_toNat_lt, ready.next]
    exact Nat.lt_succ_of_le (le_newest (mem_aged.mpr known))

/-- Storing a key under the next marker gives it the next number. -/
theorem insert_marker (ready : Ready p ages w) (key : Bytes) :
    (p.entries w).insert key (marker ages w) = stamped key (p.entries w) := by
  rw [marker, ready.number, stamped]

/-- Wherever the dropping of keys stopped, the saved key is there. -/
theorem get?_left (ready : Ready p ages w) (room : newest (p.entries w) + 1 < UInt64.size)
    {key : Bytes} {n : Nat} (fewer : n < (aged (stamped key (p.entries w))).length)
    {left : SortedMap Bytes Bytes} (same : left = withoutOldest n (stamped key (p.entries w))) :
    left.get? key = some (marker ages w) := by
  rw [same, get?_trimmed room fewer, ← insert_marker ready, SortedMap.get?_insert, if_pos rfl]

/-- What one save does to a dedup whose ages are those of its store. -/
theorem accounted_saving (sensible : Sensible maxKeys cleanFactor) (serving : p.Serving w)
    (ready : Ready p ages w) (key : Bytes) :
    let turn := saving p maxKeys cleanFactor ages key w
    turn.Fits p ages → turn.Accounted p ages maxKeys cleanFactor ∧
      p.Serving turn.after ∧ Ready p ages turn.after := by
  intro turn fits
  have positive : 0 < (⟨maxKeys, maxKeys * cleanFactor⟩ : KeepLimits).maxKeys := sensible.keeps
  have room : p.refusal? w (.put key (marker ages w)) = none →
      newest (p.entries w) + 1 < UInt64.size - 1 := fun accepted => by
    have next : (w.ages.get ages).next.toNat + 1 < UInt64.size := fits accepted
    rw [ready.next] at next
    omega
  cases saves key ready positive room with
  | done run accepted works entries ready' =>
    have answer : turn.answer = .ok () := outcome_ok run
    obtain rfl := stateAfter_ok run
    have room := room accepted
    have fits : newest (p.entries w) + 1 < UInt64.size := by omega
    obtain ⟨n, fewer, trimmed⟩ := savedIn_eq positive fits key
    refine ⟨?_, works.serving serving, ready'⟩
    exact {
      aligned := .of_ready ready'
      refused := fun e refusal => nomatch accepted.symm.trans refusal
      stuck := fun e _ failed => nomatch answer.symm.trans failed
      kept := fun _ => get?_left ready fits fewer (entries.trans trimmed)
      bounded := fun _ => Nat.le_trans (Nat.le_of_eq (congrArg SortedMap.size entries))
        (size_savedIn_le fits key)
      recovers := fun _ => answer }
  | refused run refusal faulty looks =>
    have answer := outcome_error run
    obtain rfl := stateAfter_error run
    have ready' := ready.congr looks.entries (by rw [looks.rest])
    refine ⟨?_, looks.serving serving, ready'⟩
    exact {
      aligned := .of_ready ready'
      refused := fun e' refusal' => by
        rw [← Option.some.inj (refusal.symm.trans refusal')]
        exact ⟨answer, looks⟩
      stuck := fun e' accepted => nomatch refusal.symm.trans accepted
      kept := fun accepted => nomatch refusal.symm.trans accepted
      bounded := fun done => nomatch answer.symm.trans done
      recovers := fun faultless => absurd faultless faulty }
  | @stuck _ e n run accepted faulty works fewer entries ready' =>
    have answer := outcome_error run
    obtain rfl := stateAfter_error run
    have room := room accepted
    have spared : n < (aged (stamped key (p.entries w))).length := by omega
    refine ⟨?_, works.serving serving, ready'⟩
    exact {
      aligned := .of_ready ready'
      refused := fun e' refusal => nomatch accepted.symm.trans refusal
      stuck := fun _ _ _ => by
        have same : turn.stored p ages = stamped key (p.entries w) := insert_marker ready key
        rw [same, size_eq_length_aged]
        exact ⟨n, fewer, entries, (congrArg aged entries).trans (aged_withoutOldest n _)⟩
      kept := fun _ => get?_left ready (by omega) spared entries
      bounded := fun done => nomatch answer.symm.trans done
      recovers := fun faultless => absurd faultless faulty }

theorem Ran.sensible (ran : Ran p maxKeys cleanFactor ages turns now) :
    Sensible maxKeys cleanFactor := by
  induction ran with
  | opened serving few run => exact .of_run run
  | saved earlier key ih => exact ih
  | meanwhile earlier entries same serving ih => exact ih

/-- The run as a whole: every save finds the dedup in step with its store, and leaves it so. -/
theorem Ran.accounted (ran : Ran p maxKeys cleanFactor ages turns now)
    (room : ∀ turn ∈ turns, turn.Fits p ages) :
    (∀ turn ∈ turns, turn.Accounted p ages maxKeys cleanFactor) ∧
      p.Serving now ∧ Ready p ages now := by
  induction ran with
  | opened serving few run =>
    obtain ⟨ages', w', run', works, same, ready⟩ := opens (.of_run run) serving few
    rw [run] at run'
    cases run'
    exact ⟨nofun, works.serving serving, ready⟩
  | @saved turns now earlier key ih =>
    obtain ⟨accounted, serving, ready⟩ :=
      ih fun turn listed => room turn (List.mem_append_left _ listed)
    obtain ⟨last, serving', ready'⟩ := accounted_saving earlier.sensible serving ready key
      (room _ (List.mem_append_right _ List.mem_cons_self))
    refine ⟨fun turn listed => ?_, serving', ready'⟩
    rw [List.mem_append, List.mem_singleton] at listed
    obtain before | rfl := listed
    · exact accounted turn before
    · exact last
  | meanwhile earlier entries same serving ih =>
    obtain ⟨accounted, -, ready⟩ := ih room
    exact ⟨accounted, serving, ready.congr entries same⟩

/-- A naive dedup and its store never drift apart, whichever writes the store refuses. As long as
    the numbers last, the ages are those of the stored keys at any time and after every save, and it
    is known what every save has done. -/
theorem ages_stay_aligned (ran : Ran p maxKeys cleanFactor ages turns now)
    (room : ∀ turn ∈ turns, turn.Fits p ages) :
    Aligned p ages now ∧ ∀ turn ∈ turns, turn.Accounted p ages maxKeys cleanFactor := by
  obtain ⟨accounted, -, ready⟩ := ran.accounted room
  exact ⟨.of_ready ready, accounted⟩

end Runs

/-! ## Runs on fixed inputs -/

/-- A dedup that was just opened on an empty probe; once there are three keys, it keeps one. -/
def justOpened : World :=
  stateAfter (Dedup.newNaive (.probe ⟨0⟩ {}) 1 3) { randomness := fun _ => 0 }

/-- A rule by which writes fail, after so many that do not. -/
def refusing (op : ProbeOp) (skip : Nat) : List FaultRule :=
  [{ op, skip, error := .backend "io" }]

/-- The save of a key under fault rules of its own. -/
def savingUnder (rules : List FaultRule) (key : Bytes) (w : World) : Turn :=
  saving (.probe ⟨0⟩ {}) 1 3 ⟨0⟩ key (w.ruled ⟨0⟩ rules)

theorem Ran.savedUnder {turns : List Turn} {now : World}
    (ran : Ran (.probe ⟨0⟩ {}) 1 3 ⟨0⟩ turns now) (rules : List FaultRule)
    (serving : ∀ rule ∈ rules, rule.op = .put ∨ rule.op = .del) (key : Bytes) :
    Ran (.probe ⟨0⟩ {}) 1 3 ⟨0⟩ (turns ++ [savingUnder rules key now])
      (savingUnder rules key now).after := by
  have ruled : (PlainStore.probe ⟨0⟩ {}).Serving (now.ruled ⟨0⟩ rules) := by
    rw [PlainStore.Serving, World.rules_ruled]
    exact serving
  exact (ran.meanwhile (now.probed_ruled ⟨0⟩ rules) rfl ruled).saved key

def firstSave : Turn := savingUnder [] [1] justOpened

def secondSave : Turn := savingUnder [] [2] firstSave.after

/-- A save that drops one of two keys in excess. -/
def stuckSave : Turn := savingUnder (refusing .del 1) [3] secondSave.after

def refusedSave : Turn := savingUnder (refusing .put 0) [4] stuckSave.after

/-- A save that drops what was left over. -/
def lastSave : Turn := savingUnder [] [5] refusedSave.after

theorem ages_stay_aligned_through_refusals :
    let turns := [firstSave, secondSave, stuckSave, refusedSave, lastSave]
    Ran (.probe ⟨0⟩ {}) 1 3 ⟨0⟩ turns lastSave.after ∧
    (∀ turn ∈ turns, turn.Fits (.probe ⟨0⟩ {}) ⟨0⟩) ∧
    turns.map (·.answer) =
      [.ok (), .ok (), .error (.backend "io"), .error (.backend "io"), .ok ()] ∧
    turns.map (fun turn => (turn.after.probed ⟨0⟩).keys) =
      [[[1]], [[1], [2]], [[2], [3]], [[2], [3]], [[5]]] ∧
    Aligned (.probe ⟨0⟩ {}) ⟨0⟩ lastSave.after ∧
    ∀ turn ∈ turns, turn.Accounted (.probe ⟨0⟩ {}) ⟨0⟩ 1 3 := by
  intro turns
  have opened : Ran (.probe ⟨0⟩ {}) 1 3 ⟨0⟩ [] justOpened :=
    .opened (w := { randomness := fun _ => 0 }) nofun (by decide) rfl
  have stuck := ((opened.savedUnder [] nofun [1]).savedUnder [] nofun [2]).savedUnder
    (refusing .del 1) (by simp [refusing]) [3]
  have ran : Ran (.probe ⟨0⟩ {}) 1 3 ⟨0⟩ turns lastSave.after :=
    (stuck.savedUnder (refusing .put 0) (by simp [refusing]) [4]).savedUnder [] nofun [5]
  have numbers : ∀ turn ∈ turns, (turn.before.ages.get ⟨0⟩).next.toNat + 1 < UInt64.size := by
    decide +kernel
  have room : ∀ turn ∈ turns, turn.Fits (.probe ⟨0⟩ {}) ⟨0⟩ := fun turn listed _ =>
    numbers turn listed
  exact ⟨ran, room, by rfl, by decide +kernel, ages_stay_aligned ran room⟩

end DedupScheme

end StoreGraph
