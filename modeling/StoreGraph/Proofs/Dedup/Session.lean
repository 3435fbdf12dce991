import StoreGraph.Proofs.Dedup.Operations

/-! # Sessions of a naive dedup

A session opens a naive dedup on whatever an in-memory store holds, and works with it, where the
dedup may be dropped and opened again at any point. It answers as a list of keys from the oldest to
the newest does, to which a saved key moves or is added at the end and which is cut at the front
when it has grown too long (`session_answers_as_age_list`). Opening again makes no difference,
neither to an answer nor to what is dropped.
-/

namespace StoreGraph

/-- What can be done with a naive dedup. -/
inductive DedupOp where
  | save (key : Bytes)
  | isSaved (key : Bytes)
  | size
  /-- Drop the dedup, and open it again on the same store with the same limits. -/
  | reopen
  deriving Repr, DecidableEq

inductive DedupAnswer where
  | done
  | flag (b : Bool)
  | number (n : Nat)
  deriving Repr, DecidableEq

namespace Dedup

/-- Do one thing with a dedup. Only naive ones count their keys. -/
def act (maxKeys cleanFactor : Nat) (d : Dedup) : DedupOp → StoreM (DedupAnswer × Dedup)
  | .save key => do
    d.save key
    return (.done, d)
  | .isSaved key => return (.flag (← d.isSaved key), d)
  | .size => do
    match d.scheme with
    | .naive ages _ => return (.number (← DedupScheme.readAges ages).size, d)
    | .offloaded _ => return (.number 0, d)
  | .reopen => return (.done, ← newNaive d.store maxKeys cleanFactor)

def actAll (maxKeys cleanFactor : Nat) (d : Dedup) :
    List DedupOp → StoreM (List DedupAnswer × Dedup)
  | [] => return ([], d)
  | op :: ops => do
    let (answer, d) ← d.act maxKeys cleanFactor op
    let (answers, d) ← d.actAll maxKeys cleanFactor ops
    return (answer :: answers, d)

/-- Open a naive dedup on a store, and work with it. -/
def session (store : Store) (maxKeys cleanFactor : Nat) (ops : List DedupOp) :
    StoreM (List DedupAnswer × Dedup) := do
  (← newNaive store maxKeys cleanFactor).actAll maxKeys cleanFactor ops

end Dedup

/-- The stored keys by marker and key, the oldest one first. -/
def order (entries : SortedMap Bytes Bytes) : List Bytes := (aged entries).map (·.2)

/-- How many keys a list of operations saves. -/
def saveCount (ops : List DedupOp) : Nat := ops.countP fun | .save _ => true | _ => false

/-! ## The list of keys by age -/

namespace KeepLimits

variable (limits : KeepLimits)

/-- A saved key goes to the end; of a list that has become too long, the end is kept. -/
def remember (keys : List Bytes) (key : Bytes) : List Bytes :=
  let moved := keys.filter (· ≠ key) ++ [key]
  if limits.threshold ≤ moved.length then moved.drop (moved.length - limits.maxKeys) else moved

/-- What the list answers, and what becomes of it. -/
def step (keys : List Bytes) : DedupOp → DedupAnswer × List Bytes
  | .save key => (.done, limits.remember keys key)
  | .isSaved key => (.flag (decide (key ∈ keys)), keys)
  | .size => (.number keys.length, keys)
  | .reopen => (.done, keys)

/-- The list after some operations. -/
def after (keys : List Bytes) (ops : List DedupOp) : List Bytes :=
  ops.foldl (fun keys op => (limits.step keys op).2) keys

def answers (keys : List Bytes) : List DedupOp → List DedupAnswer
  | [] => []
  | op :: ops => (limits.step keys op).1 :: answers (limits.step keys op).2 ops

variable {limits}

theorem answers_append (keys : List Bytes) (before ops : List DedupOp) :
    limits.answers keys (before ++ ops) =
      limits.answers keys before ++ limits.answers (limits.after keys before) ops := by
  induction before generalizing keys with
  | nil => rfl
  | cons op before ih => exact congrArg ((limits.step keys op).1 :: ·) (ih (limits.step keys op).2)

theorem length_answers (keys : List Bytes) (ops : List DedupOp) :
    (limits.answers keys ops).length = ops.length := by
  induction ops generalizing keys with
  | nil => rfl
  | cons op ops ih => exact congrArg (· + 1) (ih (limits.step keys op).2)

/-- Opening again has its own answer and changes no other. -/
theorem answers_without_reopen (keys : List Bytes) (earlier later : List DedupOp) :
    limits.answers keys (earlier ++ later) =
      (limits.answers keys (earlier ++ .reopen :: later)).eraseIdx earlier.length := by
  rw [answers_append, answers_append, List.eraseIdx_append_of_length_le
    (Nat.le_of_eq (length_answers keys earlier)), length_answers, Nat.sub_self]
  rfl

theorem after_concat (keys : List Bytes) (earlier : List DedupOp) (key : Bytes) :
    limits.after keys (earlier ++ [.save key]) =
      limits.remember (limits.after keys earlier) key := by
  rw [after, List.foldl_append]
  rfl

/-- The key that was just saved is kept. -/
theorem mem_remember (positive : 0 < limits.maxKeys) (keys : List Bytes) (key : Bytes) :
    key ∈ limits.remember keys key := by
  have last : key ∈ keys.filter (· ≠ key) ++ [key] := List.mem_append_right _ List.mem_cons_self
  rw [remember]
  split
  · rw [List.drop_append_of_le_length]
    · exact List.mem_append_right _ List.mem_cons_self
    · rw [List.length_append, List.length_singleton]
      omega
  · exact last

/-- However long the list was, it is short after a save. -/
theorem length_remember_le (keys : List Bytes) (key : Bytes) :
    (limits.remember keys key).length ≤ max limits.maxKeys (limits.threshold - 1) := by
  rw [remember]
  split
  · rw [List.length_drop]
    omega
  · omega

end KeepLimits

/-! ## Runs -/

section Runs

variable {entries : SortedMap Bytes Bytes} {limits : KeepLimits} {cell : Ref .memory}
  {ages : Ref .ages} {w : World} {maxKeys cleanFactor : Nat}

theorem order_savedIn (room : newest entries + 1 < UInt64.size) (key : Bytes) :
    order (savedIn limits key entries) = limits.remember (order entries) key := by
  have moved : ∀ stored, aged stored = (aged entries).filter (·.2 ≠ key) ++
        [(UInt64.ofNat (newest entries + 1), key)] →
      (aged stored).map (·.2) = (order entries).filter (· ≠ key) ++ [key] := by
    intro stored list
    rw [list, List.map_append, order, List.filter_map]
    rfl
  have list := moved _ (aged_stamped room key)
  rw [stamped] at list
  have length := congrArg List.length list
  rw [List.length_map] at length
  rw [savedIn, KeepLimits.remember, ← length]
  by_cases full : limits.threshold ≤ (aged (entries.insert key
      (Word.toBytes (UInt64.ofNat (newest entries + 1))))).length
  · rw [if_pos full, if_pos full, order, aged_withoutOldest, List.map_drop, list]
  · rw [if_neg full, if_neg full, order, list]

/-- The entries after some operations. -/
def entriesAfter (limits : KeepLimits) (entries : SortedMap Bytes Bytes) (ops : List DedupOp) :
    SortedMap Bytes Bytes :=
  ops.foldl (fun entries op => match op with
    | .save key => savedIn limits key entries
    | .isSaved _ | .size | .reopen => entries) entries

theorem contains_iff_mem_order (key : Bytes) :
    entries.contains key = decide (key ∈ order entries) := by
  have members : key ∈ order entries ↔ entries.contains key = true := by
    rw [SortedMap.contains, Option.isSome_iff_exists, order, List.mem_map]
    constructor
    · rintro ⟨⟨sequence, _⟩, member, rfl⟩
      obtain ⟨marker, stored, -⟩ := Option.map_eq_some_iff.mp (mem_aged.mp member)
      exact ⟨marker, stored⟩
    · rintro ⟨marker, stored⟩
      exact ⟨(markerSequence marker, key), mem_aged.mpr (by rw [stored]; rfl), rfl⟩
  rw [Bool.eq_iff_iff, decide_eq_true_iff, members]

theorem saveCount_cons (op : DedupOp) (ops : List DedupOp) :
    saveCount (op :: ops) = saveCount [op] + saveCount ops := by
  rw [← List.singleton_append, saveCount, List.countP_append]
  rfl

/-- An operation uses up one number if it saves a key, and none otherwise. -/
theorem newest_entriesAfter (positive : 0 < limits.maxKeys) (op : DedupOp)
    (room : newest entries + saveCount [op] < UInt64.size) :
    newest (entriesAfter limits entries [op]) = newest entries + saveCount [op] := by
  cases op with
  | save key => exact newest_savedIn positive room
  | isSaved | size | reopen => rfl

/-- One operation is answered as by the list, and the store keeps up with it. -/
theorem run_act (sensible : Sensible maxKeys cleanFactor) (op : DedupOp) (live : Live cell ages w)
    (room : newest (w.entries cell) + saveCount [op] < UInt64.size - 1) :
    let limits : KeepLimits := ⟨maxKeys, maxKeys * cleanFactor⟩
    ∃ ages' w', ((Dedup.naiveOn cell ages maxKeys cleanFactor).act maxKeys cleanFactor op).run w =
        .ok ((limits.step (order (w.entries cell)) op).1,
          .naiveOn cell ages' maxKeys cleanFactor) w' ∧
      w'.entries cell = entriesAfter limits (w.entries cell) [op] ∧
      order (w'.entries cell) = (limits.step (order (w.entries cell)) op).2 ∧
      Live cell ages' w' := by
  intro limits
  cases op with
  | save key =>
    have positive : 0 < limits.maxKeys := sensible.keeps
    obtain ⟨w', run, stored, live', -⟩ := DedupScheme.run_save live positive room key
    have saved : ((Dedup.naiveOn cell ages maxKeys cleanFactor).save key).run w = .ok () w' := run
    refine ⟨ages, w', ?_, stored, ?_, live'⟩
    · simp only [Dedup.act, EStateM.run_bind, saved]
      rfl
    · rw [stored]
      exact order_savedIn (Nat.lt_of_lt_of_le room (Nat.sub_le _ _)) key
  | isSaved key =>
    have told : ((Dedup.naiveOn cell ages maxKeys cleanFactor).isSaved key).run w =
        .ok ((w.entries cell).contains key) w := DedupScheme.run_isSaved key w
    refine ⟨ages, w, ?_, rfl, rfl, live⟩
    simp only [Dedup.act, EStateM.run_bind, told, contains_iff_mem_order]
    rfl
  | size =>
    refine ⟨ages, w, ?_, rfl, rfl, live⟩
    have counted : (w.ages.get ages).size = (order (w.entries cell)).length := by
      rw [live.tracks.size, order, List.length_map]
    simp only [KeepLimits.step, ← counted]
    rfl
  | reopen =>
    obtain ⟨ages', w', opened, same, live'⟩ := run_newNaive sensible cell w (by omega)
    refine ⟨ages', w', ?_, by rw [same]; rfl, by rw [same]; rfl, live'⟩
    simp only [Dedup.act, Dedup.naiveOn, EStateM.run_bind, opened]
    rfl

/-- The run of a list of operations: each of them finds what the one before it left. -/
theorem run_actAll (sensible : Sensible maxKeys cleanFactor) (ops : List DedupOp)
    (live : Live cell ages w)
    (room : newest (w.entries cell) + saveCount ops < UInt64.size - 1) :
    let limits : KeepLimits := ⟨maxKeys, maxKeys * cleanFactor⟩
    ∃ d w', ((Dedup.naiveOn cell ages maxKeys cleanFactor).actAll maxKeys cleanFactor ops).run w =
        .ok (limits.answers (order (w.entries cell)) ops, d) w' ∧
      w'.entries cell = entriesAfter limits (w.entries cell) ops ∧
      order (w'.entries cell) = limits.after (order (w.entries cell)) ops := by
  intro limits
  induction ops generalizing ages w with
  | nil => exact ⟨_, w, rfl, rfl, rfl⟩
  | cons op ops ih =>
    rw [saveCount_cons] at room
    obtain ⟨ages₁, w₁, run, stored, list, live₁⟩ := run_act sensible op live (by omega)
    have positive : 0 < limits.maxKeys := sensible.keeps
    have used : newest (w₁.entries cell) = newest (w.entries cell) + saveCount [op] := by
      rw [stored]
      exact newest_entriesAfter positive op (by omega)
    obtain ⟨d, w', run', stored', list'⟩ := ih live₁ (by omega)
    refine ⟨d, w', ?_, ?_, ?_⟩
    · simp only [Dedup.actAll, EStateM.run_bind, run, run', list]
      rfl
    · rw [stored', stored]
      rfl
    · rw [list', list]
      rfl

theorem run_session (sensible : Sensible maxKeys cleanFactor) (ops : List DedupOp)
    (room : newest (w.entries cell) + saveCount ops < UInt64.size - 1) :
    let limits : KeepLimits := ⟨maxKeys, maxKeys * cleanFactor⟩
    ∃ d w', (Dedup.session (.memory cell) maxKeys cleanFactor ops).run w =
        .ok (limits.answers (order (w.entries cell)) ops, d) w' ∧
      w'.entries cell = entriesAfter limits (w.entries cell) ops ∧
      order (w'.entries cell) = limits.after (order (w.entries cell)) ops := by
  intro limits
  obtain ⟨ages, w₁, opened, same, live⟩ := run_newNaive sensible cell w (by omega)
  have left : w₁.entries cell = w.entries cell := by rw [same]
  obtain ⟨d, w', run, stored, list⟩ := run_actAll sensible ops live (by rw [left]; exact room)
  rw [left] at run stored list
  refine ⟨d, w', ?_, stored, list⟩
  simp only [Dedup.session, EStateM.run_bind, opened]
  exact run

theorem entriesAfter_without_reopen (earlier later : List DedupOp) :
    entriesAfter limits entries (earlier ++ .reopen :: later) =
      entriesAfter limits entries (earlier ++ later) := by
  simp only [entriesAfter, List.foldl_append, List.foldl_cons]

theorem saveCount_without_reopen (earlier later : List DedupOp) :
    saveCount (earlier ++ .reopen :: later) = saveCount (earlier ++ later) := by
  simp only [saveCount, List.countP_append, List.countP_cons]
  rfl

/-- A naive dedup is a list of keys by age that survives being dropped and opened again. Whatever
    the store holds at first, a session answers as the list of the stored keys does, ordered by
    marker and key, and the store goes on holding the keys of the list. Right after a save the saved
    key is in the list, and the list is no longer than its limits say. Leaving out one opening of
    the dedup leaves out its answer, and changes no other answer and no entry of the store. -/
theorem session_answers_as_age_list (sensible : Sensible maxKeys cleanFactor) (ops : List DedupOp)
    (room : newest (w.entries cell) + saveCount ops < UInt64.size - 1) :
    let limits : KeepLimits := ⟨maxKeys, maxKeys * cleanFactor⟩
    let stored := order (w.entries cell)
    ∃ answers d w', (Dedup.session (.memory cell) maxKeys cleanFactor ops).run w =
        .ok (answers, d) w' ∧
      answers = limits.answers stored ops ∧
      order (w'.entries cell) = limits.after stored ops ∧
      (∀ earlier key later, ops = earlier ++ .save key :: later →
        key ∈ limits.after stored (earlier ++ [.save key]) ∧
        (limits.after stored (earlier ++ [.save key])).length ≤
          max maxKeys (maxKeys * cleanFactor - 1)) ∧
      ∀ earlier later, ops = earlier ++ .reopen :: later →
        ∃ d' w'', (Dedup.session (.memory cell) maxKeys cleanFactor (earlier ++ later)).run w =
            .ok (answers.eraseIdx earlier.length, d') w'' ∧
          w''.entries cell = w'.entries cell := by
  intro limits stored
  obtain ⟨d, w', run, kept, list⟩ := run_session sensible ops room
  refine ⟨_, d, w', run, rfl, list, ?_, ?_⟩
  · rintro earlier key later rfl
    rw [KeepLimits.after_concat]
    exact ⟨KeepLimits.mem_remember sensible.keeps _ key, KeepLimits.length_remember_le _ key⟩
  · rintro earlier later rfl
    rw [saveCount_without_reopen] at room
    obtain ⟨d', w'', shorter, kept', -⟩ := run_session sensible (earlier ++ later) room
    rw [KeepLimits.answers_without_reopen] at shorter
    refine ⟨d', w'', shorter, ?_⟩
    rw [kept, kept', entriesAfter_without_reopen]

end Runs

/-- Three keys, of which only `[3]` has a marker that can be read. -/
def legacyEntries : SortedMap Bytes Bytes := .ofList [([5], [1]), ([4], []), ([3], Word.toBytes 7)]

/-- A world whose only store holds the three keys. -/
def legacyWorld : World where
  randomness _ := 0
  memories := { cells := SortedMap.empty.insert 0 { entries := legacyEntries }, next := 1 }

/-- Keys without a readable marker are the oldest ones, and are dropped first. -/
theorem session_answers_on_legacy_keys :
    Sensible 2 2 ∧
      newest (legacyWorld.entries ⟨0⟩) +
        saveCount
            [.size, .save [9], .isSaved [5], .reopen, .save [3], .save [8], .isSaved [9], .size]
          < UInt64.size - 1 ∧
      (KeepLimits.mk 2 4).answers (order (legacyWorld.entries ⟨0⟩))
          [.size, .save [9], .isSaved [5], .reopen, .save [3], .save [8], .isSaved [9], .size] =
        [.number 3, .done, .flag false, .done, .done, .done, .flag true, .number 3] := by
  have sensible : Sensible 2 2 := ⟨by decide, by decide, by decide⟩
  have room : newest (legacyWorld.entries ⟨0⟩) +
      saveCount [.size, .save [9], .isSaved [5], .reopen, .save [3], .save [8], .isSaved [9], .size]
        < UInt64.size - 1 := by
    decide +kernel
  obtain ⟨answers, d, w', run, same, -⟩ := session_answers_as_age_list sensible _ room
  refine ⟨sensible, room, same.symm.trans ?_⟩
  -- The sort that orders the list does not reduce, the program does.
  have computed : (match (Dedup.session (.memory ⟨0⟩) 2 2 [.size, .save [9], .isSaved [5], .reopen,
      .save [3], .save [8], .isSaved [9], .size]).run legacyWorld with
        | .ok (answers, _) _ => some answers
        | .error _ _ => none) =
      some [.number 3, .done, .flag false, .done, .done, .done, .flag true, .number 3] := by
    decide +kernel
  rw [run] at computed
  injection computed

end StoreGraph
