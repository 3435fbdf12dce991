import StoreGraph.Proofs.Queue.Session

/-! # A walk while the queue changes

A walk over a queue keeps the range of numbers that it found when it began, and reads an item only
when it comes to it. Here its steps are interleaved with operations on the queue in any order
(`Walking.turns`). Items that were put in later have numbers outside of the range, and items leave
the queue at the front only. So the walk shows the items that it found one after another, each as
long as the queue still has it (`Fifo.upcoming`), and where it has once ended it has nothing more
to show (`walk_shows_what_is_left`).
-/

namespace StoreGraph

/-- A queue and a walk over it that began some time ago. -/
structure Walking where
  queue : StoredQueue
  walk : QueueWalk

/-- What happens to a queue and a walk over it. -/
inductive WalkTurn where
  /-- The walk is asked for its next item. -/
  | next
  /-- Something is done with the queue. -/
  | op (op : QueueOp)
  deriving Repr, DecidableEq

inductive TurnAnswer where
  | next (shown : Option (Except Error (Nat × Bytes)))
  | op (answer : Except Error QueueAnswer)

namespace Walking

def turn (s : Walking) : WalkTurn → StoreM (TurnAnswer × Walking)
  | .next => do
    let (shown, walk) ← s.walk.step
    return (.next (shown.map (Except.map fun item => (item.1.toNat, item.2))), { s with walk })
  | .op op => do
    let (answer, queue) ← s.queue.perform op
    return (.op answer, { s with queue })

def turns (s : Walking) : List WalkTurn → StoreM (List TurnAnswer × Walking)
  | [] => return ([], s)
  | turn :: turns => do
    let (answer, s) ← s.turn turn
    let (answers, s) ← s.turns turns
    return (answer :: answers, s)

end Walking

/-- What was done with the queue. -/
def queueOps (turns : List WalkTurn) : List QueueOp :=
  turns.filterMap fun | .op op => some op | .next => none

/-- What the operations on the queue answered. -/
def queueAnswers (answers : List TurnAnswer) : List (Except Error QueueAnswer) :=
  answers.filterMap fun | .op answer => some answer | .next _ => none

/-- The items that the walk showed, with their numbers. -/
def shownItems (answers : List TurnAnswer) : List (Nat × Bytes) :=
  answers.filterMap fun | .next (some (.ok item)) => some item | _ => none

namespace Fifo

variable {f captured now : Fifo} {item : Nat × Bytes} {shown : Nat}

/-- The item that comes next in a walk over a captured queue, if the queue still has it now. -/
def upcoming (captured now : Fifo) (shown : Nat) : Option (Nat × Bytes) :=
  captured.numbered[shown]?.filter (· ∈ now.numbered)

/-- What the steps of a walk over a captured queue show, among operations on the queue. -/
def told (captured now : Fifo) (shown : Nat) : List WalkTurn → List TurnAnswer
  | [] => []
  | .op op :: turns => .op (now.step op).1 :: captured.told (now.step op).2 shown turns
  | .next :: turns =>
    match captured.upcoming now shown with
    | some item => .next (some (.ok item)) :: captured.told now (shown + 1) turns
    | none => .next none :: captured.told now shown turns

theorem numbered_cons (taken : Nat) (data : Bytes) (rest : List Bytes) :
    numbered ⟨taken, data :: rest⟩ = (taken + 1, data) :: numbered ⟨taken + 1, rest⟩ := rfl

theorem taken_lt_of_mem_numbered (member : item ∈ f.numbered) : f.taken < item.1 := by
  obtain ⟨i, _, number, _⟩ := exists_of_mem_numbered member
  omega

theorem taken_le_step (f : Fifo) (op : QueueOp) : f.taken ≤ (f.step op).2.taken := by
  obtain ⟨taken, items⟩ := f
  cases op with
  | discard | get => cases items <;> simp [step, act]
  | peek => cases items <;> exact Nat.le_refl _
  | put | size | oldest | latest | isEmpty | walk | reopen => exact Nat.le_refl _

/-- An item stays in the queue until it is taken. -/
theorem mem_numbered_step (op : QueueOp) (member : item ∈ f.numbered) :
    item ∈ (f.step op).2.numbered ∨ item.1 ≤ (f.step op).2.taken := by
  obtain ⟨taken, items⟩ := f
  cases op with
  | put data =>
    left
    change item ∈ (put ⟨taken, items⟩ data).numbered
    rw [numbered_put]
    exact List.mem_append_left _ member
  | discard | get =>
    cases items with
    | nil => exact .inl member
    | cons data rest =>
      rw [numbered_cons, List.mem_cons] at member
      rcases member with rfl | later
      · exact .inr (Nat.le_refl _)
      · exact .inl later
  | peek => cases items <;> exact .inl member
  | size | oldest | latest | isEmpty | walk | reopen => exact .inl member

/-- An item is in the queue only if it was before or has just been put in. -/
theorem mem_numbered_of_step {op : QueueOp} (member : item ∈ (f.step op).2.numbered) :
    item ∈ f.numbered ∨ op = .put item.2 ∧ (f.step op).1 = .ok (.stored item.1) := by
  obtain ⟨taken, items⟩ := f
  cases op with
  | put data =>
    change item ∈ (put ⟨taken, items⟩ data).numbered at member
    rw [numbered_put, List.mem_append, List.mem_singleton] at member
    rcases member with earlier | rfl
    · exact .inl earlier
    · refine .inr ⟨rfl, ?_⟩
      rw [← latest_put ⟨taken, items⟩ data]
      rfl
  | discard | get =>
    cases items with
    | nil => exact .inl member
    | cons data rest => exact .inl (List.mem_cons_of_mem _ member)
  | peek => cases items <;> exact .inl member
  | size | oldest | latest | isEmpty | walk | reopen => exact .inl member

/-- What is in the queue was put in, and the answer to the `put` was its number. -/
theorem acknowledged_of_mem_numbered (ops : List QueueOp)
    (member : item ∈ (f.after ops).numbered) :
    item ∈ f.numbered ∨ (.put item.2, .ok (.stored item.1)) ∈ ops.zip (f.answers ops) := by
  induction ops generalizing f with
  | nil => exact .inl member
  | cons op ops ih =>
    rcases ih member with earlier | later
    · rcases mem_numbered_of_step earlier with before | ⟨rfl, answer⟩
      · exact .inl before
      · refine .inr ?_
        rw [answers, answer]
        exact List.mem_cons_self
    · exact .inr (List.mem_cons_of_mem _ later)

/-- The queue went on from a captured one: of the items that it had, only taken ones are missing. -/
def GoesOn (captured now : Fifo) : Prop :=
  ∀ item ∈ captured.numbered, item ∈ now.numbered ∨ item.1 ≤ now.taken

theorem GoesOn.refl (f : Fifo) : GoesOn f f := fun _ member => .inl member

theorem GoesOn.step (goesOn : GoesOn captured now) (op : QueueOp) :
    GoesOn captured (now.step op).2 := by
  intro item member
  rcases goesOn item member with present | taken
  · exact mem_numbered_step op present
  · exact .inr (Nat.le_trans taken (now.taken_le_step op))

theorem mem_numbered_of_upcoming (upcoming : captured.upcoming now shown = some item) :
    captured.numbered[shown]? = some item ∧ item ∈ now.numbered := by
  obtain ⟨listed, present⟩ := Option.filter_eq_some_iff.1 upcoming
  exact ⟨listed, of_decide_eq_true present⟩

/-- Where nothing comes next, nothing will. -/
theorem GoesOn.ended (goesOn : GoesOn captured now) (ended : captured.upcoming now shown = none)
    (op : QueueOp) : captured.upcoming (now.step op).2 shown = none := by
  simp only [upcoming, Option.filter_eq_none_iff, decide_eq_true_eq] at ended ⊢
  intro item listed present
  rcases goesOn item (List.mem_of_getElem? listed) with held | taken
  · exact ended item listed held
  · have above := taken_lt_of_mem_numbered present
    have further := now.taken_le_step op
    omega

end Fifo

/-- What the answers of a walk among operations on the queue say about the queue that the walk
    captured. -/
structure Walked (captured : Fifo) (turns : List WalkTurn) (told : List TurnAnswer) : Prop where
  /-- The queue answers as if there were no walk. -/
  queue : queueAnswers told = captured.answers (queueOps turns)
  /-- The walk shows the captured items in their order and leaves none out. -/
  inOrder : shownItems told <+: captured.numbered
  /-- A step shows the next captured item if the queue still has it then, and nothing otherwise. -/
  next : ∀ earlier later, turns = earlier ++ .next :: later →
    told[earlier.length]? = some (.next ((captured.upcoming (captured.after (queueOps earlier))
      (shownItems (told.take earlier.length)).length).map .ok))
  /-- A walk that has ended does not go on. -/
  ended : ∀ earlier later, told = earlier ++ .next none :: later →
    ∀ shown, .next shown ∈ later → shown = none

namespace Fifo

variable {captured now : Fifo} {shown : Nat}

theorem queueAnswers_told (turns : List WalkTurn) :
    queueAnswers (captured.told now shown turns) = now.answers (queueOps turns) := by
  induction turns generalizing now shown with
  | nil => rfl
  | cons turn turns ih =>
    cases turn with
    | op op => exact congrArg ((now.step op).1 :: ·) ih
    | next =>
      simp only [told]
      split
      · exact ih
      · exact ih

theorem length_told (turns : List WalkTurn) :
    (captured.told now shown turns).length = turns.length := by
  induction turns generalizing now shown with
  | nil => rfl
  | cons turn turns ih =>
    cases turn with
    | op op => exact congrArg (· + 1) ih
    | next =>
      simp only [told]
      split
      · exact congrArg (· + 1) ih
      · exact congrArg (· + 1) ih

theorem told_append (earlier later : List WalkTurn) :
    captured.told now shown (earlier ++ later) = captured.told now shown earlier ++
      captured.told (now.after (queueOps earlier))
        (shown + (shownItems (captured.told now shown earlier)).length) later := by
  induction earlier generalizing now shown with
  | nil => rfl
  | cons turn earlier ih =>
    cases turn with
    | op op => exact congrArg (_ :: ·) ih
    | next =>
      simp only [List.cons_append, told]
      split
      · rw [ih, List.cons_append]
        congr 3
        exact Nat.add_right_comm shown 1 _
      · exact congrArg (_ :: ·) ih

theorem shownItems_told (turns : List WalkTurn) :
    shownItems (captured.told now shown turns) <+: captured.numbered.drop shown := by
  induction turns generalizing now shown with
  | nil => exact List.nil_prefix
  | cons turn turns ih =>
    cases turn with
    | op op => exact ih
    | next =>
      simp only [told]
      split
      · rename_i item upcoming
        obtain ⟨listed, _⟩ := mem_numbered_of_upcoming upcoming
        obtain ⟨inside, same⟩ := List.getElem?_eq_some_iff.1 listed
        rw [List.drop_eq_getElem_cons inside, same]
        exact List.cons_prefix_cons.2 ⟨rfl, ih⟩
      · exact ih

/-- Where nothing comes next, no later step shows anything. -/
theorem GoesOn.told_ended {turns : List WalkTurn} (goesOn : GoesOn captured now)
    (ended : captured.upcoming now shown = none) {next : Option (Except Error (Nat × Bytes))}
    (later : .next next ∈ captured.told now shown turns) : next = none := by
  induction turns generalizing now with
  | nil => cases later
  | cons turn turns ih =>
    cases turn with
    | op op =>
      rcases List.mem_cons.1 later with same | later
      · cases same
      · exact ih (goesOn.step op) (goesOn.ended ended op) later
    | next =>
      rw [told, ended] at later
      rcases List.mem_cons.1 later with same | later
      · cases same
        rfl
      · exact ih goesOn ended later

theorem GoesOn.told_after_end {turns : List WalkTurn} {earlier later : List TurnAnswer}
    (goesOn : GoesOn captured now)
    (split : captured.told now shown turns = earlier ++ .next none :: later)
    {next : Option (Except Error (Nat × Bytes))} (after : .next next ∈ later) : next = none := by
  induction turns generalizing now shown earlier with
  | nil => cases earlier <;> cases split
  | cons turn turns ih =>
    cases turn with
    | op op =>
      cases earlier with
      | nil => cases split
      | cons answer earlier => exact ih (goesOn.step op) (List.cons.inj split).2
    | next =>
      rw [told] at split
      split at split
      · cases earlier with
        | nil => cases split
        | cons answer earlier => exact ih goesOn (List.cons.inj split).2
      · rename_i ended
        cases earlier with
        | nil =>
          obtain ⟨_, rfl⟩ := List.cons.inj split
          exact goesOn.told_ended ended after
        | cons answer earlier => exact ih goesOn (List.cons.inj split).2

theorem walked_told (captured : Fifo) (turns : List WalkTurn) :
    Walked captured turns (captured.told captured 0 turns) where
  queue := queueAnswers_told turns
  inOrder := shownItems_told turns
  next earlier later split := by
    have before : (captured.told captured 0 turns).take earlier.length =
        captured.told captured 0 earlier := by
      rw [split, told_append]
      exact List.take_left' (length_told earlier)
    rw [before, split, told_append, List.getElem?_append_right (Nat.le_of_eq (length_told earlier)),
      length_told, Nat.sub_self, Nat.zero_add, told]
    split <;> simp_all
  ended _ _ split _ after := (GoesOn.refl captured).told_after_end split after

theorem getElem?_numbered (f : Fifo) (i : Nat) :
    f.numbered[i]? = f.items[i]?.map fun data => (f.taken + 1 + i, data) := by
  simp [numbered, Function.comp_def]

end Fifo

namespace StoredQueue

variable {cell : Ref .memory} {captured now : Fifo} {shown : Nat} {w : World}

theorem Holds.get? {entries : SortedMap Bytes Bytes} {f : Fifo} {item : Nat × Bytes}
    (holds : Holds entries f) (member : item ∈ f.numbered) :
    entries.get? (Word.toBytes (UInt64.ofNat item.1)) = some item.2 := by
  obtain ⟨i, inside, number, data⟩ := Fifo.exists_of_mem_numbered member
  rw [number, data]
  exact holds.item i inside

/-- Where a walk over a captured queue stands after it showed some items: at the number of the next
    one, or, when it came too late for this item, at its end. -/
def StandsAt (captured now : Fifo) (shown : Nat) (next : UInt64) : Prop :=
  next = UInt64.ofNat (captured.taken + 1 + shown) ∧ shown ≤ captured.items.length ∨
    next = 0 ∧ captured.upcoming now shown = none

/-- A walk over a captured queue that is about to look for an item. -/
def walkFrom (cell : Ref .memory) (captured : Fifo) (next : UInt64) : QueueWalk :=
  ⟨.memory cell, next, UInt64.ofNat captured.latest⟩

/-- A step of a walk shows the item that comes next. -/
theorem run_step {next : UInt64} (fits : captured.Fits) (holds : HoldsOnly (w.entries cell) now)
    (goesOn : captured.GoesOn now) (stands : StandsAt captured now shown next) :
    ∃ next', (walkFrom cell captured next).step.run w =
        .ok ((captured.upcoming now shown).map fun item => .ok (UInt64.ofNat item.1, item.2),
          walkFrom cell captured next') w ∧
      StandsAt captured now (shown + (captured.upcoming now shown).toList.length) next' := by
  rcases stands with ⟨rfl, within⟩ | ⟨rfl, ended⟩
  · have last : (UInt64.ofNat captured.latest).toNat = captured.latest := toNat_latest cell fits
    have latest : captured.latest = captured.taken + captured.items.length := rfl
    simp only [Fifo.Fits] at fits
    rcases Nat.eq_or_lt_of_le within with rfl | inside
    · have nothing : captured.upcoming now captured.items.length = none := by
        rw [Fifo.upcoming, Fifo.getElem?_numbered, List.getElem?_eq_none (Nat.le_refl _)]
        rfl
      have ended : UInt64.ofNat captured.latest <
          UInt64.ofNat (captured.taken + 1 + captured.items.length) := by
        rw [UInt64.lt_iff_toNat_lt, last, UInt64.toNat_ofNat_of_lt' (by omega)]
        omega
      rw [nothing]
      exact ⟨_, QueueWalk.run_step_over (.inr ended) w, .inl ⟨rfl, within⟩⟩
    · have listed : captured.numbered[shown]? =
          some (captured.taken + 1 + shown, captured.items[shown]) := by
        rw [Fifo.getElem?_numbered, List.getElem?_eq_getElem inside]
        rfl
      have positive : 0 < captured.taken + 1 + shown := by omega
      have below : captured.taken + 1 + shown ≤ (UInt64.ofNat captured.latest).toNat := by omega
      rw [walkFrom, QueueWalk.run_step_inside positive below]
      rcases goesOn _ (List.mem_of_getElem? listed) with present | taken
      · have upcoming : captured.upcoming now shown =
            some (captured.taken + 1 + shown, captured.items[shown]) := by
          rw [Fifo.upcoming, listed, Option.filter_some, if_pos (decide_eq_true present)]
        rw [holds.toHolds.get? present, upcoming]
        exact ⟨_, rfl, .inl ⟨rfl, inside⟩⟩
      · have nothing : captured.upcoming now shown = none := by
          rw [Fifo.upcoming, listed, Option.filter_some, if_neg]
          intro present
          exact absurd (Fifo.taken_lt_of_mem_numbered (of_decide_eq_true present))
            (Nat.not_lt.2 taken)
        rw [holds.gone _ positive taken, nothing]
        exact ⟨_, rfl, .inr ⟨rfl, nothing⟩⟩
  · rw [ended]
    exact ⟨0, QueueWalk.run_step_over (.inl rfl) w, .inr ⟨rfl, ended⟩⟩

/-- What a walk shows and what the queue answers, whatever happens to the queue in between. -/
theorem run_turns (turns : List WalkTurn) {next : UInt64}
    (fits : (now.after (queueOps turns)).Fits) (within : captured.Fits)
    (holds : HoldsOnly (w.entries cell) now) (goesOn : captured.GoesOn now)
    (stands : StandsAt captured now shown next) :
    ∃ s w', (Walking.turns ⟨ofFifo cell now, walkFrom cell captured next⟩ turns).run w =
      .ok (captured.told now shown turns, s) w' := by
  induction turns generalizing now shown next w with
  | nil => exact ⟨_, w, rfl⟩
  | cons turn turns ih =>
    cases turn with
    | op op =>
      have first : (now.step op).2.Fits := by
        have later := (now.step op).2.latest_after (queueOps turns)
        change ((now.step op).2.after (queueOps turns)).Fits at fits
        simp only [Fifo.Fits] at fits ⊢
        omega
      obtain ⟨w₁, held, performed⟩ := run_perform op first holds
      have still : StandsAt captured (now.step op).2 shown next :=
        stands.imp_right fun past => ⟨past.1, goesOn.ended past.2 op⟩
      obtain ⟨s, w₂, rest⟩ := ih fits held (goesOn.step op) still
      refine ⟨s, w₂, ?_⟩
      simp only [Walking.turns, Walking.turn, EStateM.run_bind, performed, EStateM.run_pure, rest]
      rfl
    | next =>
      obtain ⟨next', stepped, stands'⟩ := run_step within holds goesOn stands
      obtain ⟨s, w₁, rest⟩ := ih fits holds goesOn stands'
      refine ⟨s, w₁, ?_⟩
      simp only [Walking.turns, Walking.turn, EStateM.run_bind, stepped, EStateM.run_pure, rest,
        Fifo.told]
      cases upcoming : captured.upcoming now shown with
      | none => simp only [Option.map_none, Option.toList_none, List.length_nil, Nat.add_zero]
      | some item =>
        have listed := (Fifo.mem_numbered_of_upcoming upcoming).1
        have number : (UInt64.ofNat item.1).toNat = item.1 := by
          obtain ⟨i, inside, number, _⟩ :=
            Fifo.exists_of_mem_numbered (List.mem_of_getElem? listed)
          simp only [Fifo.Fits, Fifo.latest] at within
          exact UInt64.toNat_ofNat_of_lt' (by omega)
        simp only [Option.map_some, Except.map, number, Option.toList_some, List.length_singleton]

/-- A walk shows the items that were in the queue when it began, as long as they are there. In a
    store that is empty or holds what earlier sessions left, open the queue, work with it, and begin
    a walk; then ask for the next item, put, take and drop items in any order. The range that the
    walk captured is that of the items in the queue at this moment, each of which was put in under
    its number; the walk shows them one after another until there is no more or the next one has
    left the queue (`Walked`). -/
theorem walk_shows_what_is_left {before answered} (ops : List QueueOp) (turns : List WalkTurn)
    (left : LeftBy before answered (w.entries cell))
    (room : putCount (before ++ ops ++ queueOps turns) < UInt64.size - 1) :
    ∃ answers q w', (session (.memory cell) ops).run w = .ok (answers, q) w' ∧
      ∃ captured : Fifo, captured = Fifo.after {} (before ++ ops) ∧
        captured.numbered.map Prod.fst =
          List.range' q.range.oldest.toNat (q.range.latest.toNat + 1 - q.range.oldest.toNat) ∧
        (∀ item ∈ captured.numbered, (QueueOp.put item.2, .ok (.stored item.1)) ∈
          (before ++ ops).zip (answered ++ answers)) ∧
        ∃ told s w'', (Walking.turns ⟨q, .start q⟩ turns).run w' = .ok (told, s) w'' ∧
          Walked captured turns told := by
  have fits : ((Fifo.after {} (before ++ ops)).after (queueOps turns)).Fits := by
    rw [← Fifo.after_append, Fifo.fits_after]
    exact room
  rw [putCount, List.countP_append] at room
  have within : (Fifo.after {} (before ++ ops)).Fits :=
    Fifo.fits_after.2 (Nat.lt_of_le_of_lt (Nat.le_add_right _ _) room)
  rw [List.countP_append] at room
  obtain ⟨held, same⟩ := left.holds (by rw [putCount]; omega)
  obtain ⟨w', found, run⟩ := run_session ops (Fifo.after_append {} before ops ▸ within) held
  rw [← Fifo.after_append] at run found
  obtain ⟨s, w'', walked⟩ := run_turns turns fits within found (.refl _)
    (.inl ⟨rfl, Nat.zero_le _⟩)
  refine ⟨_, _, w', run, _, rfl, ?_, fun item member => ?_, _, s, w'', walked,
    Fifo.walked_told _ turns⟩
  · rw [Fifo.numbers_numbered, toNat_oldest cell within, toNat_latest cell within]
    congr 1
    simp only [Fifo.latest]
    omega
  · rw [same, ← Fifo.answers_append]
    rcases Fifo.acknowledged_of_mem_numbered _ member with none | put
    · cases none
    · exact put

/-- What happens to a queue of three items while a walk is on its way. -/
def overtaken : List WalkTurn :=
  [.op (.put [5]), .next, .next, .op .get, .op .get, .op .get, .next, .op (.put [6]), .next]

theorem walk_shows_what_is_left_overtaken :
    LeftBy [.put [1], .put [2], .get] [.ok (.stored 1), .ok (.stored 2), .ok (.data [1])]
        (onceUsed.entries ⟨0⟩) ∧
      putCount ([.put [1], .put [2], .get] ++ [.put [3], .put [4]] ++ queueOps overtaken)
        < UInt64.size - 1 ∧
      ∃ answers q w', (session (.memory ⟨0⟩) [.put [3], .put [4]]).run onceUsed =
          .ok (answers, q) w' ∧
        ∃ told s w'', (Walking.turns ⟨q, .start q⟩ overtaken).run w' = .ok (told, s) w'' ∧
          Walked ⟨1, [[2], [3], [4]]⟩ overtaken told ∧
          shownItems told = [(2, [2]), (3, [3])] := by
  have unused : LeftBy [] [] (World.entries { randomness := fun _ => 0 } ⟨0⟩) := .nothing
  have run : (session (.memory ⟨0⟩) [.put [1], .put [2], .get]).run { randomness := fun _ => 0 } =
    .ok ([.ok (.stored 1), .ok (.stored 2), .ok (.data [1])], ofFifo ⟨0⟩ ⟨1, [[2]]⟩) onceUsed := rfl
  have left : LeftBy [.put [1], .put [2], .get]
      [.ok (.stored 1), .ok (.stored 2), .ok (.data [1])] (onceUsed.entries ⟨0⟩) :=
    unused.session run
  have room : putCount ([.put [1], .put [2], .get] ++ [.put [3], .put [4]] ++ queueOps overtaken)
    < UInt64.size - 1 := by decide
  have three : Fifo.after {} ([.put [1], .put [2], .get] ++ [.put [3], .put [4]]) =
    ⟨1, [[2], [3], [4]]⟩ := rfl
  have shows : EStateM.run' (do
      let opened ← session (.memory ⟨0⟩) [.put [3], .put [4]]
      let told ← Walking.turns ⟨opened.2, .start opened.2⟩ overtaken
      return shownItems told.1) onceUsed = some [(2, [2]), (3, [3])] := by decide +kernel
  obtain ⟨answers, q, w', run, captured, same, _, _, told, s, w'', turned, walked⟩ :=
    walk_shows_what_is_left _ overtaken left room
  rw [same, three] at walked
  refine ⟨left, room, answers, q, w', run, told, s, w'', turned, walked, ?_⟩
  obtain ⟨w₁, shows⟩ := exists_run_of_run' shows
  simp only [EStateM.run_bind, run, turned, EStateM.run_pure] at shows
  injection shows

end StoredQueue

end StoreGraph
