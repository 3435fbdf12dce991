import StoreGraph.Proofs.Memory.Journal
import StoreGraph.Proofs.Shards.Lazy

/-! # In-memory stores that change while they are enumerated

A user of an in-memory store goes on according to what he was answered before, and so do his
visitors: they may edit the store that is showing them its keys, look values up in it, or enumerate
it once more. What any of them is answered is told by the journal of all edits made so far, the
edits of visitors included, and so is the state in which the store is left
(`memory_answers_from_journal`). An enumeration shows the keys that were present when it began,
whatever becomes of them meanwhile, and makes no edit of its own.
-/

namespace StoreGraph

namespace Memory

/-- A user of an in-memory store; his visitors are users, too. -/
inductive User : Type → Type 1 where
  | done {α : Type} (a : α) : User α
  | edit {α : Type} (e : Edit) (next : Except Error Unit → User α) : User α
  | get {α : Type} (key : Bytes) (next : Except Error Bytes → User α) : User α
  | keys {α τ : Type} (start : τ) (visit : Bytes → τ → User (Except Error Unit × τ))
      (next : Except Error Unit × τ → User α) : User α

/-- Call a visitor with one key after the other until it fails. The visitor adds to the journal. -/
def showTo {τ : Type} (visit : Bytes → τ → Journal → (Except Error Unit × τ) × Journal) :
    List Bytes → τ → Journal → (Except Error Unit × τ) × Journal
  | [], t, past => ((.ok (), t), past)
  | key :: rest, t, past =>
    match visit key t past with
    | ((.ok _, t), past) => showTo visit rest t past
    | ((.error e, t), past) => ((.error e, t), past)

namespace User

variable {α : Type}

def run (s : Storage) : {α : Type} → User α → StoreM α
  | _, done a => return a
  | _, edit e next => do (next (← attempt (e.ask s))).run s
  | _, get key next => do (next (← attempt (s.get key))).run s
  | _, keys start visit next => do
    let ended ← VisitM.observe start <|
      s.keys fun key => VisitM.calling fun t => (visit key t).run s
    (next ended).run s

/-- What the journal of the edits so far tells a user, and the journal when he is done. -/
def tell : {α : Type} → User α → Journal → α × Journal
  | _, done a, past => (a, past)
  | _, edit e next, past => (next (.ok ())).tell (past ++ [e])
  | _, get key next, past =>
    match past.held key with
    | some value => (next (.ok value)).tell past
    | none => (next (.error .notFound)).tell past
  | _, keys start visit next, past =>
    let (ended, past) := showTo (fun key t => (visit key t).tell) past.present start past
    (next ended).tell past

end User

section Enumerations

variable {cell : Ref .memory} {w : World} {τ : Type}

theorem run_calling {step : τ → StoreM (Except Error Unit × τ)} {outcome : Except Error Unit}
    {w' : World} {t t' : τ} (run : (step t).run w = .ok (outcome, t') w') :
    (VisitM.calling step).run (w, t) = (ofExcept outcome).run (w', t') := by
  have called : (StoreM.visiting (step t) : VisitM τ _).run (w, t) = .ok (outcome, t') (w', t) := by
    rw [StoreM.run_visiting, run]
  simp only [VisitM.calling, EStateM.run_bind, EStateM.run_get, called]
  rfl

/-- An enumeration of some keys leaves behind what its visitor does, and nothing else. -/
theorem run_forM_calling {step : Bytes → τ → StoreM (Except Error Unit × τ)}
    {visit : Bytes → τ → Journal → (Except Error Unit × τ) × Journal}
    (steps : ∀ key t past, (step key t).run (w.edited cell past) =
      .ok (visit key t past).1 (w.edited cell (visit key t past).2))
    (keys : List Bytes) (t : τ) (past : Journal) :
    (VisitM.observe t (keys.forM fun key => VisitM.calling (step key))).run (w.edited cell past) =
      .ok (showTo visit keys t past).1 (w.edited cell (showTo visit keys t past).2) := by
  induction keys generalizing t past with
  | nil => rfl
  | cons key rest ih =>
    have called := run_calling (t := t) (steps key t past)
    simp only [VisitM.run_observe] at ih ⊢
    simp only [List.forM, EStateM.run_bind, called, showTo]
    generalize visit key t past = told
    obtain ⟨⟨outcome, t'⟩, past'⟩ := told
    cases outcome with
    | ok _ => exact ih t' past'
    | error e => rfl

end Enumerations

variable {cell : Ref .memory} {w : World}

/-- Wherever a user begins, the journal tells what he is answered and what he leaves behind. -/
theorem run_user {α : Type} (user : User α) (new : w.entries cell = .empty) (past : Journal) :
    (user.run (.memory cell)).run (w.edited cell past) =
      .ok (user.tell past).1 (w.edited cell (user.tell past).2) := by
  induction user generalizing past with
  | done a => rfl
  | edit e next ih =>
    have edited : (e.ask (.memory cell)).run (w.edited cell past) =
        .ok () (w.edited cell (past ++ [e])) := by
      rw [e.run_ask, World.edited_concat]
    simp only [User.run, User.tell, EStateM.run_bind, run_attempt, edited]
    exact ih (.ok ()) (past ++ [e])
  | get key next ih =>
    have records := World.Records.edited new past
    simp only [User.run, User.tell, EStateM.run_bind, run_attempt, records.run_get]
    cases past.held key with
    | none => exact ih (.error .notFound) past
    | some value => exact ih (.ok value) past
  | keys start visit next visits ih =>
    have snapshot := (World.Records.edited new past).keys
    have enumerated :=
      run_forM_calling (fun key t past => visits key t past) past.present start past
    rw [← snapshot] at enumerated
    simp only [User.run, User.tell, EStateM.run_bind]
    have shown : (VisitM.observe start ((Storage.memory cell).keys fun key =>
        VisitM.calling fun t => (visit key t).run (.memory cell))).run (w.edited cell past) = _ :=
      enumerated
    rw [shown, snapshot]
    exact ih _ _

/-- A user of a new in-memory store is answered as the journal of all edits tells. Under a key it
    tells the value that was put last, and its keys are those that hold a value, in strictly
    increasing order of their bytes. -/
theorem memory_answers_from_journal {α : Type} (user : User α) (w : World) :
    (do user.run (.memory (← create))).run w =
        .ok (user.tell []).1 (w.withMemory.edited ⟨w.memories.next⟩ (user.tell []).2) ∧
      (∀ (past : Journal) key value, past.held key = some value ↔ past.PutLast key value) ∧
      ∀ past : Journal, past.present.Pairwise (· < ·) ∧
        ∀ key, key ∈ past.present ↔ ∃ value, past.PutLast key value :=
  ⟨run_user user w.entries_withMemory_new [], fun _ _ _ => Journal.held_eq_some_iff,
    fun past => ⟨past.present_sorted, fun _ => Journal.mem_present⟩⟩

end Memory

end StoreGraph
