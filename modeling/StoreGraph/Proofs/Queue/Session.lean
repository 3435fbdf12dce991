import StoreGraph.Proofs.Queue.Operations

/-! # Sessions of a stored queue

A session opens the queue that a store holds and works with it, where the queue may be dropped and
opened again at any point. Whatever earlier sessions left in the store, a session answers as the
abstract queue does that went through all of them (`session_answers_as_fifo`): opening again makes
no difference, and no sequence number is used twice.
-/

namespace StoreGraph

/-- What can be done with a queue. -/
inductive QueueOp where
  | put (data : Bytes)
  | peek
  | discard
  | get
  | size
  | oldest
  | latest
  | isEmpty
  /-- Walk over all items. -/
  | walk
  /-- Drop the queue, and open it again on the same store. -/
  | reopen
  deriving Repr, DecidableEq

inductive QueueAnswer where
  | done
  /-- The item was appended, and its sequence number is this. -/
  | stored (number : Nat)
  | data (data : Bytes)
  | number (n : Nat)
  | flag (b : Bool)
  /-- What a walk showed: items with their sequence numbers, or failures of the store. -/
  | items (shown : List (Except Error (Nat × Bytes)))

namespace StoredQueue

def act (q : StoredQueue) : QueueOp → StoreM (QueueAnswer × StoredQueue)
  | .put data => do
    let q' ← q.put data
    return (.stored q'.range.latest.toNat, q')
  | .peek => return (.data (← q.peek), q)
  | .discard => return (.done, ← q.discard)
  | .get => do
    let (data, q') ← q.get
    return (.data data, q')
  | .size => return (.number q.size.toNat, q)
  | .oldest => return (.number q.range.oldest.toNat, q)
  | .latest => return (.number q.range.latest.toNat, q)
  | .isEmpty => return (.flag q.isEmpty, q)
  | .walk => do
    let shown ← (QueueWalk.start q).all
    return (.items (shown.map (Except.map fun item => (item.1.toNat, item.2))), q)
  | .reopen => return (.done, ← openOn q.store)

/-- Do one thing with a queue. An operation that fails leaves the queue as it is. -/
def perform (q : StoredQueue) (op : QueueOp) : StoreM (Except Error QueueAnswer × StoredQueue) := do
  match ← attempt (q.act op) with
  | .ok (answer, q') => return (.ok answer, q')
  | .error e => return (.error e, q)

def performAll (q : StoredQueue) :
    List QueueOp → StoreM (List (Except Error QueueAnswer) × StoredQueue)
  | [] => return ([], q)
  | op :: ops => do
    let (answer, q) ← q.perform op
    let (answers, q) ← q.performAll ops
    return (answer :: answers, q)

/-- Open the queue that a store holds, and work with it. -/
def session (store : Store) (ops : List QueueOp) :
    StoreM (List (Except Error QueueAnswer) × StoredQueue) := do
  (← openOn store).performAll ops

/-- What sessions leave in a store that was empty before them: the operations and answers of all of
    them, and the entries. Each session finds the entries of the last one, in any world. -/
inductive LeftBy :
    List QueueOp → List (Except Error QueueAnswer) → SortedMap Bytes Bytes → Prop where
  | nothing : LeftBy [] [] .empty
  | session {before answered ops answers cell q w w'}
      (left : LeftBy before answered (w.entries cell))
      (run : (session (.memory cell) ops).run w = .ok (answers, q) w') :
      LeftBy (before ++ ops) (answered ++ answers) (w'.entries cell)

end StoredQueue

namespace Fifo

/-- The items with their sequence numbers. -/
def numbered (f : Fifo) : List (Nat × Bytes) :=
  (f.items.zipIdx (f.taken + 1)).map fun (data, n) => (n, data)

def act (f : Fifo) : QueueOp → Except Error (QueueAnswer × Fifo)
  | .put data => .ok (.stored (f.put data).latest, f.put data)
  | .peek => match f.items with
    | [] => .error .notFound
    | data :: _ => .ok (.data data, f)
  | .discard => match f.items with
    | [] => .error .notFound
    | _ :: rest => .ok (.done, ⟨f.taken + 1, rest⟩)
  | .get => match f.items with
    | [] => .error .notFound
    | data :: rest => .ok (.data data, ⟨f.taken + 1, rest⟩)
  | .size => .ok (.number f.items.length, f)
  | .oldest => .ok (.number (f.taken + 1), f)
  | .latest => .ok (.number f.latest, f)
  | .isEmpty => .ok (.flag f.items.isEmpty, f)
  | .walk => .ok (.items (f.numbered.map .ok), f)
  | .reopen => .ok (.done, f)

/-- What an abstract queue answers, and what becomes of it. -/
def step (f : Fifo) (op : QueueOp) : Except Error QueueAnswer × Fifo :=
  match f.act op with
  | .ok (answer, f') => (.ok answer, f')
  | .error e => (.error e, f)

/-- The queue after a list of operations. -/
def after (f : Fifo) (ops : List QueueOp) : Fifo := ops.foldl (fun f op => (f.step op).2) f

def answers (f : Fifo) : List QueueOp → List (Except Error QueueAnswer)
  | [] => []
  | op :: ops => (f.step op).1 :: (f.step op).2.answers ops

end Fifo

/-- How many items a list of operations appends. -/
def putCount (ops : List QueueOp) : Nat :=
  ops.countP fun | .put _ => true | _ => false

/-- The sequence numbers under which items were appended. -/
def storedNumbers (answers : List (Except Error QueueAnswer)) : List Nat :=
  answers.filterMap fun | .ok (.stored n) => some n | _ => none

namespace Fifo

theorem numbered_put (f : Fifo) (data : Bytes) :
    (f.put data).numbered = f.numbered ++ [(f.latest + 1, data)] := by
  simp only [numbered, put, List.zipIdx_append, List.map_append, List.zipIdx_singleton,
    List.map_singleton, latest]
  congr 3
  omega

theorem exists_of_mem_numbered {f : Fifo} {number : Nat} {data : Bytes}
    (member : (number, data) ∈ f.numbered) :
    ∃ i, ∃ inside : i < f.items.length, number = f.taken + 1 + i ∧ data = f.items[i] := by
  obtain ⟨⟨data, position⟩, listed, same⟩ := List.mem_map.mp member
  cases same
  obtain ⟨i, inside, same⟩ := List.mem_iff_getElem.mp listed
  rw [List.getElem_zipIdx] at same
  cases same
  exact ⟨i, by simpa using inside, rfl, rfl⟩

theorem numbers_numbered (f : Fifo) :
    f.numbered.map Prod.fst = List.range' (f.taken + 1) f.items.length := by
  simp only [numbered, List.map_map]
  exact List.zipIdx_map_snd _ _

theorem latest_step (f : Fifo) (op : QueueOp) :
    (f.step op).2.latest = f.latest + putCount [op] := by
  obtain ⟨taken, items⟩ := f
  cases op with
  | put data => exact latest_put _ data
  | discard | get =>
    cases items with
    | nil => rfl
    | cons data rest =>
      simp only [step, act, latest, List.length_cons]
      exact Nat.succ_add_eq_add_succ taken rest.length
  | peek => cases items <;> rfl
  | size | oldest | latest | isEmpty | walk | reopen => rfl

theorem putCount_cons (op : QueueOp) (ops : List QueueOp) :
    putCount (op :: ops) = putCount [op] + putCount ops := by
  rw [← List.singleton_append, putCount, List.countP_append]
  rfl

theorem latest_after (f : Fifo) (ops : List QueueOp) :
    (f.after ops).latest = f.latest + putCount ops := by
  induction ops generalizing f with
  | nil => rfl
  | cons op ops ih =>
    change ((f.step op).2.after ops).latest = _
    rw [ih, latest_step, putCount_cons op ops]
    omega

theorem after_append (f : Fifo) (before ops : List QueueOp) :
    f.after (before ++ ops) = (f.after before).after ops :=
  List.foldl_append

theorem answers_append (f : Fifo) (before ops : List QueueOp) :
    f.answers (before ++ ops) = f.answers before ++ (f.after before).answers ops := by
  induction before generalizing f with
  | nil => rfl
  | cons op before ih => exact congrArg ((f.step op).1 :: ·) (ih (f.step op).2)

theorem length_answers (f : Fifo) (ops : List QueueOp) : (f.answers ops).length = ops.length := by
  induction ops generalizing f with
  | nil => rfl
  | cons op ops ih => exact congrArg (· + 1) (ih (f.step op).2)

theorem fits_after {ops : List QueueOp} :
    (Fifo.after {} ops).Fits ↔ putCount ops < UInt64.size - 1 := by
  rw [Fits, latest_after, show Fifo.latest {} = 0 from rfl, Nat.zero_add]

/-- Opening the queue again has its own answer and changes no other. -/
theorem answers_without_reopen (f : Fifo) (earlier later : List QueueOp) :
    f.answers (earlier ++ later) =
      (f.answers (earlier ++ .reopen :: later)).eraseIdx earlier.length := by
  rw [answers_append, answers_append, List.eraseIdx_append_of_length_le
    (Nat.le_of_eq (length_answers f earlier)), length_answers, Nat.sub_self]
  rfl

/-- Only an answer to a `put` names a number, which is then the number used last. -/
theorem storedNumbers_step (f : Fifo) (op : QueueOp) :
    storedNumbers [(f.step op).1] = [] ∨
      storedNumbers [(f.step op).1] = [(f.step op).2.latest] ∧ f.latest < (f.step op).2.latest := by
  obtain ⟨taken, items⟩ := f
  cases op with
  | put data => exact .inr ⟨rfl, by rw [latest_step]; exact Nat.lt_succ_self _⟩
  | discard | get | peek => cases items <;> exact .inl rfl
  | size | oldest | latest | isEmpty | walk | reopen => exact .inl rfl

/-- Items are appended under ever larger numbers, all of them above the number used last. -/
theorem storedNumbers_increase (f : Fifo) (ops : List QueueOp) :
    (∀ n ∈ storedNumbers (f.answers ops), f.latest < n) ∧
      (storedNumbers (f.answers ops)).Pairwise (· < ·) := by
  induction ops generalizing f with
  | nil => exact ⟨nofun, .nil⟩
  | cons op ops ih =>
    obtain ⟨above, increasing⟩ := ih (f.step op).2
    have grown : f.latest ≤ (f.step op).2.latest := by
      rw [latest_step]
      exact Nat.le_add_right _ _
    have split : storedNumbers (f.answers (op :: ops)) =
        storedNumbers [(f.step op).1] ++ storedNumbers ((f.step op).2.answers ops) :=
      List.filterMap_append (l := [(f.step op).1])
    rw [split]
    rcases storedNumbers_step f op with none | ⟨one, used⟩
    · rw [none, List.nil_append]
      exact ⟨fun n member => Nat.lt_of_le_of_lt grown (above n member), increasing⟩
    · rw [one, List.singleton_append]
      refine ⟨fun n member => ?_, List.pairwise_cons.2 ⟨above, increasing⟩⟩
      rcases List.mem_cons.1 member with rfl | later
      · exact used
      · exact Nat.lt_of_le_of_lt grown (above n later)

/-- The words that a walk shows stand for the numbers of the items. -/
theorem numbered_eq_shown {f : Fifo} (fits : f.Fits) :
    ((f.items.zipIdx (f.taken + 1)).map fun (data, n) =>
        (.ok (UInt64.ofNat n, data) : Except Error (UInt64 × Bytes))).map
      (Except.map fun item => (item.1.toNat, item.2)) = f.numbered.map .ok := by
  simp only [numbered, List.map_map]
  apply List.map_congr_left
  rintro ⟨data, n⟩ member
  have inside := List.snd_lt_add_of_mem_zipIdx member
  simp only [Fits, latest] at fits
  have word : n < UInt64.size := by omega
  simp only [Function.comp_apply, Except.map, UInt64.toNat_ofNat_of_lt' word]

end Fifo

namespace StoredQueue

variable {cell : Ref .memory} {f : Fifo} {w : World}

/-- One operation does what it does to the abstract queue, and the store keeps up with it. -/
theorem run_act (op : QueueOp) (fits : (f.step op).2.Fits)
    (holds : HoldsOnly (w.entries cell) f) :
    ∃ w', HoldsOnly (w'.entries cell) (f.step op).2 ∧
      ((ofFifo cell f).act op).run w = match f.act op with
        | .ok (answer, f') => .ok (answer, ofFifo cell f') w'
        | .error e => .error e w' := by
  have before : f.Fits := by
    simp only [Fifo.Fits, Fifo.latest_step] at fits ⊢
    omega
  obtain ⟨taken, items⟩ := f
  cases op with
  | put data =>
    obtain ⟨w', run, held⟩ := run_put holds data fits
    have number : (ofFifo cell (Fifo.put ⟨taken, items⟩ data)).range.latest.toNat =
      (Fifo.put ⟨taken, items⟩ data).latest := toNat_latest cell fits
    refine ⟨w', held, ?_⟩
    simp only [act, EStateM.run_bind, run, EStateM.run_pure, Fifo.act, number]
  | peek =>
    cases items with
    | nil =>
      refine ⟨w, holds, ?_⟩
      simp only [act, EStateM.run_bind, run_peek_nil before, Fifo.act]
    | cons data rest =>
      refine ⟨w, holds, ?_⟩
      simp only [act, EStateM.run_bind, run_peek_cons before holds.toHolds, EStateM.run_pure,
        Fifo.act]
  | discard =>
    cases items with
    | nil =>
      refine ⟨w, holds, ?_⟩
      simp only [act, EStateM.run_bind, run_discard_nil before, Fifo.act]
    | cons data rest =>
      obtain ⟨w', run, held⟩ := run_discard_cons before holds
      refine ⟨w', held, ?_⟩
      simp only [act, EStateM.run_bind, run, EStateM.run_pure, Fifo.act]
  | get =>
    cases items with
    | nil =>
      refine ⟨w, holds, ?_⟩
      simp only [act, EStateM.run_bind, run_get_nil before, Fifo.act]
    | cons data rest =>
      obtain ⟨w', run, held⟩ := run_get_cons before holds
      refine ⟨w', held, ?_⟩
      simp only [act, EStateM.run_bind, run, EStateM.run_pure, Fifo.act]
  | size =>
    refine ⟨w, holds, ?_⟩
    simp only [act, toNat_size_ofFifo before]
    rfl
  | oldest =>
    refine ⟨w, holds, ?_⟩
    simp only [act, toNat_oldest cell before]
    rfl
  | latest =>
    refine ⟨w, holds, ?_⟩
    simp only [act, toNat_latest cell before]
    rfl
  | isEmpty =>
    refine ⟨w, holds, ?_⟩
    simp only [act, isEmpty_ofFifo before]
    rfl
  | walk =>
    have latest := toNat_latest cell before
    simp only [ofFifo, Fifo.latest] at latest
    have shows := QueueWalk.run_all items (taken + 1) (by omega) (by rw [latest]; omega)
      (by rw [latest]; simp only [Fifo.Fits, Fifo.latest] at before; omega) holds.item
    refine ⟨w, holds, ?_⟩
    simp only [act, QueueWalk.start, ofFifo, EStateM.run_bind, Fifo.latest, shows,
      EStateM.run_pure, Fifo.act, ← Fifo.numbered_eq_shown before]
  | reopen =>
    obtain ⟨w', run, same⟩ := run_openOn before holds.toHolds
    refine ⟨w', by rw [same]; exact holds, ?_⟩
    have reopened : (openOn (ofFifo cell ⟨taken, items⟩).store).run w =
      .ok (ofFifo cell ⟨taken, items⟩) w' := run
    simp only [act, EStateM.run_bind, reopened, EStateM.run_pure, Fifo.act]

/-- An operation is answered as the abstract queue answers it. -/
theorem run_perform (op : QueueOp) (fits : (f.step op).2.Fits)
    (holds : HoldsOnly (w.entries cell) f) :
    ∃ w', HoldsOnly (w'.entries cell) (f.step op).2 ∧
      ((ofFifo cell f).perform op).run w =
        .ok ((f.step op).1, ofFifo cell (f.step op).2) w' := by
  obtain ⟨w', held, run⟩ := run_act op fits holds
  refine ⟨w', held, ?_⟩
  simp only [perform, EStateM.run_bind, run_attempt, run, Fifo.step]
  cases f.act op with
  | ok outcome => rfl
  | error e => rfl

/-- The run of a list of operations: each of them finds the queue that the one before it left. -/
theorem run_performAll (ops : List QueueOp) (fits : (f.after ops).Fits)
    (holds : HoldsOnly (w.entries cell) f) :
    ∃ w', HoldsOnly (w'.entries cell) (f.after ops) ∧
      ((ofFifo cell f).performAll ops).run w =
        .ok (f.answers ops, ofFifo cell (f.after ops)) w' := by
  induction ops generalizing f w with
  | nil => exact ⟨w, holds, rfl⟩
  | cons op ops ih =>
    have first : (f.step op).2.Fits := by
      have later := (f.step op).2.latest_after ops
      change ((f.step op).2.after ops).Fits at fits
      simp only [Fifo.Fits] at fits ⊢
      omega
    obtain ⟨w₁, held, run⟩ := run_perform op first holds
    obtain ⟨w₂, left, rest⟩ := ih fits held
    refine ⟨w₂, left, ?_⟩
    simp only [performAll, EStateM.run_bind, run, rest, EStateM.run_pure]
    rfl

theorem run_session (ops : List QueueOp) (fits : (f.after ops).Fits)
    (holds : HoldsOnly (w.entries cell) f) :
    ∃ w', HoldsOnly (w'.entries cell) (f.after ops) ∧
      (session (.memory cell) ops).run w = .ok (f.answers ops, ofFifo cell (f.after ops)) w' := by
  have before : f.Fits := by
    have later := f.latest_after ops
    simp only [Fifo.Fits] at fits ⊢
    omega
  obtain ⟨w₁, opened, same⟩ := run_openOn before holds.toHolds
  obtain ⟨w₂, left, run⟩ := run_performAll ops fits (same ▸ holds : HoldsOnly (w₁.entries cell) f)
  refine ⟨w₂, left, ?_⟩
  simp only [session, EStateM.run_bind, opened, run]

/-- What earlier sessions left represents the abstract queue that went through all of them. -/
theorem LeftBy.holds {before answered entries} (left : LeftBy before answered entries)
    (room : putCount before < UInt64.size - 1) :
    HoldsOnly entries (Fifo.after {} before) ∧ answered = Fifo.answers {} before := by
  induction left with
  | nothing => exact ⟨holdsOnly_empty, rfl⟩
  | @session before answered ops answers cell q w w' left run ih =>
    have fits : ((Fifo.after {} before).after ops).Fits := by
      rw [← Fifo.after_append, Fifo.fits_after]
      exact room
    rw [putCount, List.countP_append] at room
    obtain ⟨held, same⟩ := ih (Nat.lt_of_le_of_lt (Nat.le_add_right _ _) room)
    obtain ⟨w₁, held', run'⟩ := run_session ops fits held
    rw [run'] at run
    cases run
    rw [Fifo.after_append, Fifo.answers_append, same]
    exact ⟨held', rfl⟩

/-- A queue over an in-memory store is a first-in, first-out list that survives being dropped and
    opened again. In a store that is empty or holds what earlier sessions left, a session answers as
    the abstract queue that went through all earlier sessions; leaving out one opening of the queue
    leaves out its answer and changes no other; and no two items of all these sessions were
    appended under one sequence number. -/
theorem session_answers_as_fifo {before answered} (ops : List QueueOp) {cell : Ref .memory}
    {w : World} (left : LeftBy before answered (w.entries cell))
    (room : putCount (before ++ ops) < UInt64.size - 1) :
    ∃ answers q w', (session (.memory cell) ops).run w = .ok (answers, q) w' ∧
      answers = (Fifo.after {} before).answers ops ∧
      (∀ earlier later, ops = earlier ++ .reopen :: later →
        ∃ q' w'', (session (.memory cell) (earlier ++ later)).run w =
          .ok (answers.eraseIdx earlier.length, q') w'') ∧
      (storedNumbers (answered ++ answers)).Pairwise (· < ·) := by
  have fits : ((Fifo.after {} before).after ops).Fits := by
    rw [← Fifo.after_append, Fifo.fits_after]
    exact room
  have roomBefore := room
  rw [putCount, List.countP_append] at roomBefore
  obtain ⟨held, same⟩ := left.holds (Nat.lt_of_le_of_lt (Nat.le_add_right _ _) roomBefore)
  obtain ⟨w', _, run⟩ := run_session ops fits held
  refine ⟨_, _, w', run, rfl, ?_, ?_⟩
  · rintro earlier later rfl
    obtain ⟨w'', _, shorter⟩ := run_session (earlier ++ later) (by
      rw [Fifo.after_append] at fits ⊢
      exact fits) held
    rw [Fifo.answers_without_reopen] at shorter
    exact ⟨_, w'', shorter⟩
  · rw [same, ← Fifo.answers_append]
    exact (Fifo.storedNumbers_increase {} (before ++ ops)).2

/-- The world after a session that appended two items to an empty store and took one of them. -/
def onceUsed : World :=
  match (session (.memory ⟨0⟩) [.put [1], .put [2], .get]).run { randomness := fun _ => 0 } with
  | .ok _ w | .error _ w => w

theorem session_answers_after_another :
    LeftBy [.put [1], .put [2], .get] [.ok (.stored 1), .ok (.stored 2), .ok (.data [1])]
        (onceUsed.entries ⟨0⟩) ∧
      putCount
          ([.put [1], .put [2], .get] ++ [.put [3], .get, .reopen, .walk, .get, .get, .put [4]])
        < UInt64.size - 1 ∧
      ∃ answers q w', (session (.memory ⟨0⟩)
          [.put [3], .get, .reopen, .walk, .get, .get, .put [4]]).run onceUsed =
            .ok (answers, q) w' ∧
        answers = [.ok (.stored 3), .ok (.data [2]), .ok .done, .ok (.items [.ok (3, [3])]),
          .ok (.data [3]), .error .notFound, .ok (.stored 4)] := by
  have unused : LeftBy [] [] (World.entries { randomness := fun _ => 0 } ⟨0⟩) := .nothing
  have run : (session (.memory ⟨0⟩) [.put [1], .put [2], .get]).run { randomness := fun _ => 0 } =
    .ok ([.ok (.stored 1), .ok (.stored 2), .ok (.data [1])], ofFifo ⟨0⟩ ⟨1, [[2]]⟩) onceUsed := rfl
  have left : LeftBy [.put [1], .put [2], .get]
      [.ok (.stored 1), .ok (.stored 2), .ok (.data [1])] (onceUsed.entries ⟨0⟩) :=
    unused.session run
  have room : putCount ([.put [1], .put [2], .get] ++
    [.put [3], .get, .reopen, .walk, .get, .get, .put [4]]) < UInt64.size - 1 := by decide
  obtain ⟨answers, q, w', run, same, _, _⟩ := session_answers_as_fifo _ left room
  exact ⟨left, room, answers, q, w', run, same⟩

end StoredQueue

end StoreGraph

