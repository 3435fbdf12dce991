import StoreGraph.Proofs.Coupled
import StoreGraph.Proofs.Queue.Faulty

/-! # Entries that are not in use

A failed `put` may leave an entry under the number after the last one. No later operation sees it:
whatever operations follow, and whatever fails meanwhile, the answers are those of a store without
that entry (`answers_alike`). The two stores are compared as long as they agree on everything that
is in use (`AgreeUpTo`).
-/

namespace StoreGraph

/-- The key belongs to no number after the given one. -/
def InUse (latest : Nat) (key : Bytes) : Prop :=
  ∀ n, latest < n → n < UInt64.size → key ≠ itemKey n

theorem inUse_item {n latest : Nat} (used : n ≤ latest) (small : latest < UInt64.size) :
    InUse latest (itemKey n) :=
  fun _ above below => itemKey_ne (by omega) below (by omega)

/-- The same is held under all keys, except perhaps under numbers after the given one. -/
def AgreeUpTo (latest : Nat) (entries entries' : SortedMap Bytes Bytes) : Prop :=
  ∀ key, InUse latest key → entries.get? key = entries'.get? key

namespace AgreeUpTo

variable {latest n : Nat} {entries entries' : SortedMap Bytes Bytes}

theorem mono (less : n ≤ latest) (agree : AgreeUpTo latest entries entries') :
    AgreeUpTo n entries entries' :=
  fun key used => agree key fun m above small => used m (by omega) small

theorem insert (agree : AgreeUpTo latest entries entries') (key value : Bytes) :
    AgreeUpTo latest (entries.insert key value) (entries'.insert key value) := by
  intro other used
  simp only [SortedMap.get?_insert, agree other used]

theorem erase (agree : AgreeUpTo latest entries entries') (key : Bytes) :
    AgreeUpTo latest (entries.erase key) (entries'.erase key) := by
  intro other used
  simp only [SortedMap.get?_erase, agree other used]

/-- Writing under the next number makes the stores agree on it. -/
theorem insertNext (agree : AgreeUpTo latest entries entries') (value : Bytes) :
    AgreeUpTo (latest + 1) (entries.insert (itemKey (latest + 1)) value)
      (entries'.insert (itemKey (latest + 1)) value) := by
  intro key used
  by_cases next : key = itemKey (latest + 1)
  · rw [next, SortedMap.get?_insert_self, SortedMap.get?_insert_self]
  · rw [SortedMap.get?_insert_of_ne _ next, SortedMap.get?_insert_of_ne _ next]
    apply agree
    intro n above small same
    obtain rfl | further : n = latest + 1 ∨ latest + 1 < n := by omega
    · exact next same
    · exact used n further small same

end AgreeUpTo

namespace StoredQueue

/-- Two worlds in which a probe fails alike and holds the same, as far as it is in use. -/
structure Twin (cell : Ref .probe) (latest : Nat) (w₁ w₂ : World) : Prop where
  rules : w₁.rules cell = w₂.rules cell
  agree : AgreeUpTo latest (w₁.probed cell) (w₂.probed cell)

variable {cell : Ref .probe} {traits : ProbeTraits} {f : Fifo} {latest : Nat}
  {w₁ w₂ : World} {key : Bytes}

namespace Twin

theorem mono {n : Nat} (less : n ≤ latest) (twin : Twin cell latest w₁ w₂) : Twin cell n w₁ w₂ :=
  ⟨twin.rules, twin.agree.mono less⟩

theorem fault? (twin : Twin cell latest w₁ w₂) (call : Call) :
    w₁.fault? cell call = w₂.fault? cell call := by
  rw [World.fault?, World.fault?, twin.rules]

theorem entered (twin : Twin cell latest w₁ w₂) (call : Call) :
    Twin cell latest (w₁.entered cell call) (w₂.entered cell call) where
  rules := by rw [World.rules_entered, World.rules_entered, twin.rules]
  agree := by
    rw [World.probed_entered, World.probed_entered]
    exact twin.agree

end Twin

theorem inUse_oldestKey : InUse latest oldestKey := fun n _ _ => (itemKey_ne_oldestKey n).symm

theorem inUse_latestKey : InUse latest latestKey := fun n _ _ => (itemKey_ne_latestKey n).symm

/-! ## Actions on the store -/

/-- A write agrees with its twin on what the stores are made to agree on. -/
theorem coupled_write (twin : Twin cell latest w₁ w₂) (call : Call) (f : Probe → Probe)
    (kept : ∀ s, (f s).rules = s.rules) {n : Nat}
    (agree : AgreeUpTo n (f ((w₁.entered cell call).probes.get cell)).entries
      (f ((w₂.entered cell call).probes.get cell)).entries) :
    Coupled (Probe.write cell call f) w₁ w₂ (fun _ => Twin cell n) (Twin cell latest) := by
  have first := Probe.run_write cell w₁ call f
  have second := Probe.run_write cell w₂ call f
  have entered := twin.entered call
  rw [twin.fault?] at first
  cases fault : w₂.fault? cell call with
  | some e =>
    rw [fault] at first second
    exact .error first second entered
  | none =>
    rw [fault] at first second
    refine .ok first second ⟨?_, ?_⟩
    · rw [World.rules_changeProbe, World.rules_changeProbe, kept, kept]
      exact entered.rules
    · rw [World.probed_changeProbe, World.probed_changeProbe]
      exact agree

theorem coupled_put (traits : ProbeTraits) (twin : Twin cell latest w₁ w₂) (value : Bytes) {n : Nat}
    (agree : AgreeUpTo n ((w₁.probed cell).insert key value) ((w₂.probed cell).insert key value)) :
    Coupled (Store.put (.probe cell traits) key value) w₁ w₂ (fun _ => Twin cell n)
      (Twin cell latest) := by
  rw [← w₁.probed_entered cell (.put key value),
    ← w₂.probed_entered cell (.put key value)] at agree
  exact coupled_write twin (.put key value) (·.put key value) (fun _ => rfl) agree

theorem coupled_del (twin : Twin cell latest w₁ w₂) (key : Bytes) :
    Coupled (Store.del (.probe cell traits) key) w₁ w₂ (fun _ => Twin cell latest)
      (Twin cell latest) := by
  have entered := twin.entered (.del key)
  exact coupled_write twin (.del key) (·.del key) (fun _ => rfl) (entered.agree.erase key)

/-- A read of a key in use is answered alike. -/
theorem coupled_get (traits : ProbeTraits) (twin : Twin cell latest w₁ w₂)
    (used : InUse latest key) :
    Coupled (Store.get (.probe cell traits) key) w₁ w₂ (fun _ => Twin cell latest)
      (Twin cell latest) := by
  have first := Storage.run_probe_get cell w₁ traits key
  have second := Storage.run_probe_get cell w₂ traits key
  have entered := twin.entered (.get key)
  rw [twin.fault?, twin.agree key used] at first
  cases fault : w₂.fault? cell (.get key) with
  | some e =>
    rw [fault] at first second
    exact .error first second entered
  | none =>
    rw [fault] at first second
    cases held : (w₂.probed cell).get? key with
    | none =>
      rw [held] at first second
      exact .error first second entered
    | some value =>
      rw [held] at first second
      exact .ok first second entered

theorem coupled_readSequence (twin : Twin cell latest w₁ w₂) (used : InUse latest key) :
    Coupled (readSequence (.probe cell traits) key) w₁ w₂ (fun _ => Twin cell latest)
      (Twin cell latest) := by
  have found : Coupled (Store.find? (.probe cell traits) key) w₁ w₂ (fun _ => Twin cell latest)
      (Twin cell latest) := by
    refine (coupled_get traits twin used).attempt.bind fun outcome u₁ u₂ twin => ?_
    cases outcome with
    | ok value => exact .pure twin
    | error e =>
      dsimp only
      split
      · exact .pure twin
      · exact .throw twin
  refine found.bind fun held u₁ u₂ twin => ?_
  cases held with
  | none => exact .pure twin
  | some raw =>
    dsimp only
    cases Word.ofBytes? raw with
    | some word => exact .pure twin
    | none => exact .throw twin

/-! ## Operations of a queue -/

theorem coupled_openOn (twin : Twin cell latest w₁ w₂) :
    Coupled (openOn (.probe cell traits)) w₁ w₂ (fun _ => Twin cell latest) (Twin cell latest) := by
  refine ((coupled_readSequence twin inUse_oldestKey).inContext _).bind fun oldest u₁ u₂ twin => ?_
  refine ((coupled_readSequence twin inUse_latestKey).inContext _).bind fun last u₁ u₂ twin => ?_
  dsimp only
  split
  · exact .throw twin
  · exact .ok rfl rfl ⟨twin.rules, twin.agree⟩

theorem coupled_peek (fits : f.Fits) (twin : Twin cell f.latest w₁ w₂) :
    Coupled (probing cell traits f).peek w₁ w₂ (fun _ => Twin cell f.latest)
      (Twin cell f.latest) := by
  cases items : f.items with
  | nil =>
    rw [peek_nil cell traits fits items]
    exact .throw twin
  | cons data rest =>
    rw [peek_cons cell traits fits items]
    simp only [Fifo.Fits] at fits
    refine coupled_get traits twin (inUse_item ?_ (by omega))
    simp only [Fifo.latest, items, List.length_cons]
    omega

theorem coupled_discard (fits : f.Fits) (twin : Twin cell f.latest w₁ w₂) :
    Coupled (probing cell traits f).discard w₁ w₂ (fun _ => Twin cell f.latest)
      (Twin cell f.latest) := by
  cases items : f.items with
  | nil =>
    rw [discard_nil cell traits fits items]
    exact .throw twin
  | cons data rest =>
    rw [discard_cons cell traits fits items]
    refine (coupled_del twin _).bind fun _ u₁ u₂ twin => ?_
    exact (coupled_put traits twin _ (twin.agree.insert _ _)).bind fun _ _ _ twin => .pure twin

/-- A walk over numbers in use shows the same. -/
theorem coupled_walk {w₁ w₂ : World} (it : QueueWalk) (overProbe : it.store = .probe cell traits)
    (inside : it.last.toNat ≤ latest) (small : latest < UInt64.size)
    (twin : Twin cell latest w₁ w₂) :
    Coupled it.all w₁ w₂ (fun _ => Twin cell latest) (fun _ _ => False) := by
  by_cases ended : it.next = 0 ∨ it.last < it.next
  · have ends : ∀ w, it.step.run w = .ok (none, it) w := by
      intro w
      simp only [QueueWalk.step, if_pos ended, EStateM.run_pure]
    exact .ok (QueueWalk.run_all_of_end (ends w₁)) (QueueWalk.run_all_of_end (ends w₂)) twin
  · have used : InUse latest (Word.toBytes it.next) := by
      rw [← UInt64.ofNat_toNat (x := it.next)]
      refine inUse_item ?_ small
      rw [not_or, UInt64.lt_iff_toNat_lt] at ended
      omega
    have step : Coupled it.step w₁ w₂ (fun outcome u₁ u₂ => Twin cell latest u₁ u₂ ∧
        outcome.2.store = .probe cell traits ∧ outcome.2.last = it.last) (fun _ _ => False) := by
      simp only [QueueWalk.step, if_neg ended, overProbe]
      refine (coupled_get traits twin used).attempt.bind fun outcome u₁ u₂ twin => ?_
      cases outcome with
      | ok data => exact .pure ⟨twin, rfl, rfl⟩
      | error e => exact .pure ⟨twin, rfl, rfl⟩
    cases step with
    | error _ _ impossible => exact impossible.elim
    | @ok outcome u₁ u₂ first second related =>
      obtain ⟨shown?, rest⟩ := outcome
      obtain ⟨twin, sameStore, sameLast⟩ := related
      cases shown? with
      | none => exact .ok (QueueWalk.run_all_of_end first) (QueueWalk.run_all_of_end second) twin
      | some shown =>
        have fewer : rest.remaining < it.remaining := QueueWalk.remaining_lt first
        have later : Coupled rest.all u₁ u₂ (fun _ => Twin cell latest) (fun _ _ => False) :=
          coupled_walk rest sameStore (by rw [sameLast]; exact inside) small twin
        cases later with
        | error _ _ impossible => exact impossible.elim
        | ok first' second' twin =>
          exact .ok (QueueWalk.run_all_of_shown first first')
            (QueueWalk.run_all_of_shown second second') twin
termination_by it.remaining

/-- An operation is answered alike, and if it succeeds then the worlds agree on its number too. -/
theorem coupled_act (traits : ProbeTraits) (op : QueueOp) (fits : f.Fits)
    (twin : Twin cell f.latest w₁ w₂) :
    Coupled ((probing cell traits f).act op) w₁ w₂ (fun _ => Twin cell (f.latest + putCount [op]))
      (Twin cell f.latest) := by
  cases op with
  | put data =>
    rw [act_put cell traits fits]
    refine (coupled_put traits twin data (twin.agree.insertNext data)).bind fun _ u₁ u₂ twin => ?_
    have published := coupled_put traits twin (itemKey (f.latest + 1))
      (twin.agree.insert latestKey (itemKey (f.latest + 1)))
    exact (published.mono (fun _ _ _ => id) fun _ _ => Twin.mono (Nat.le_succ _)).bind
      fun _ _ _ twin => .pure twin
  | size | oldest | latest | isEmpty => exact .pure twin
  | peek => exact (coupled_peek fits twin).bind fun _ _ _ twin => .pure twin
  | discard => exact (coupled_discard fits twin).bind fun _ _ _ twin => .pure twin
  | get =>
    refine .bind ((coupled_peek fits twin).bind fun data _ _ twin => ?_) fun _ _ _ twin =>
      .pure twin
    exact (coupled_discard fits twin).bind fun _ _ _ twin => .pure twin
  | walk =>
    have last : (probing cell traits f).range.latest.toNat = f.latest := toNat_latest_probing fits
    simp only [Fifo.Fits] at fits
    have shown := coupled_walk (QueueWalk.start (probing cell traits f)) rfl (Nat.le_of_eq last)
      (by omega) twin
    exact (shown.mono (fun _ _ _ => id) fun _ _ => False.elim).bind fun _ _ _ twin => .pure twin
  | reopen => exact (coupled_openOn twin).bind fun _ _ _ twin => .pure twin

/-- The number up to which the numbers of a queue are used after an operation. -/
def latestAfter (f : Fifo) (op : QueueOp) : Except Error QueueAnswer → Nat
  | .ok _ => f.latest + putCount [op]
  | .error _ => f.latest

theorem latestAfter_le (f : Fifo) (op : QueueOp) (answer : Except Error QueueAnswer) :
    latestAfter f op answer ≤ f.latest + putCount [op] := by
  cases answer with
  | ok => exact Nat.le_refl _
  | error => exact Nat.le_add_right _ _

theorem Effect.latest_eq {f' : Fifo} {entries entries' : SortedMap Bytes Bytes} {op : QueueOp}
    {answer : Except Error QueueAnswer} (effect : Effect f entries op answer f' entries') :
    f'.latest = latestAfter f op answer := by
  cases effect with
  | failed | orphaned | torn => rfl
  | looked spares =>
    cases op with
    | put data => exact absurd (.inr ⟨data, rfl⟩) spares
    | peek | discard | get | size | oldest | latest | isEmpty | walk | reopen => rfl
  | stored data => exact f.latest_put data
  | @taken _ _ _ rest items answers =>
    have counted : f.latest = Fifo.latest ⟨f.taken + 1, rest⟩ := by
      simp only [Fifo.latest, items, List.length_cons]
      exact (Nat.succ_add_eq_add_succ _ _).symm
    rw [← counted]
    obtain ⟨rfl, -⟩ | ⟨rfl, -⟩ := answers
    · rfl
    · rfl

theorem coupled_perform (traits : ProbeTraits) (op : QueueOp) (fits : f.Fits)
    (twin : Twin cell f.latest w₁ w₂) :
    Coupled ((probing cell traits f).perform op) w₁ w₂
      (fun outcome => Twin cell (latestAfter f op outcome.1)) (fun _ _ => False) := by
  refine (coupled_act traits op fits twin).attempt.bind fun outcome u₁ u₂ twin => ?_
  cases outcome with
  | ok outcome => exact .pure twin
  | error e => exact .pure twin

/-! ## Later operations -/

/-- Do one thing with a queue over a probe that is given fault rules for it. -/
def performUnder (cell : Ref .probe) (rules : List FaultRule) (q : StoredQueue) (op : QueueOp) :
    StoreM (Except Error QueueAnswer × StoredQueue) := do
  Probe.setRules cell rules
  q.perform op

/-- What a queue answers to operations, each under fault rules of its own. -/
def answersUnder (cell : Ref .probe) (q : StoredQueue) :
    List (List FaultRule × QueueOp) → StoreM (List (Except Error QueueAnswer))
  | [] => return []
  | (rules, op) :: later => do
    let (answer, q) ← performUnder cell rules q op
    return answer :: (← answersUnder cell q later)

/-- Whatever follows, and whatever fails meanwhile, the answers do not depend on entries that are
    not in use. -/
theorem answers_alike (later : List (List FaultRule × QueueOp))
    (candid : ∀ turn ∈ later, FaultRule.Candid turn.1) (keeps : Keeps (w₁.probed cell) f)
    (agree : AgreeUpTo f.latest (w₁.probed cell) (w₂.probed cell))
    (room : f.latest + putCount (later.map (·.2)) < UInt64.size - 1) :
    ∃ answers w₁' w₂', (answersUnder cell (probing cell traits f) later).run w₁ = .ok answers w₁' ∧
      (answersUnder cell (probing cell traits f) later).run w₂ = .ok answers w₂' := by
  induction later generalizing f w₁ w₂ with
  | nil => exact ⟨[], w₁, w₂, rfl, rfl⟩
  | cons turn later ih =>
    obtain ⟨rules, op⟩ := turn
    rw [List.map_cons, Fifo.putCount_cons] at room
    have fits : f.Fits := by
      simp only [Fifo.Fits]
      omega
    have twin : Twin cell f.latest (w₁.ruled cell rules) (w₂.ruled cell rules) := by
      constructor
      · rw [World.rules_ruled, World.rules_ruled]
      · rw [World.probed_ruled, World.probed_ruled]
        exact agree
    have held : Keeps ((w₁.ruled cell rules).probed cell) f := by
      rw [World.probed_ruled]
      exact keeps
    have honest : FaultRule.Candid ((w₁.ruled cell rules).rules cell) := by
      rw [World.rules_ruled]
      exact candid _ List.mem_cons_self
    obtain ⟨answer, f', u₁, run, effect⟩ := performs traits op honest fits held
    cases coupled_perform traits op fits twin with
    | error _ _ impossible => exact impossible.elim
    | @ok _ v₁ u₂ first second related =>
      rw [run] at first
      cases first
      have used : f'.latest = latestAfter f op answer := effect.latest_eq
      have below := latestAfter_le f op answer
      rw [← used] at related
      obtain ⟨answers, w₁', w₂', run₁, run₂⟩ := ih
        (fun turn listed => candid turn (List.mem_cons_of_mem _ listed)) (effect.keeps fits held)
        related.agree (by dsimp only at room; omega)
      refine ⟨answer :: answers, w₁', w₂', ?_, ?_⟩
      · simp only [answersUnder, performUnder, EStateM.run_bind, Probe.run_setRules, run, run₁]
        rfl
      · simp only [answersUnder, performUnder, EStateM.run_bind, Probe.run_setRules, second, run₂]
        rfl

end StoredQueue

end StoreGraph
