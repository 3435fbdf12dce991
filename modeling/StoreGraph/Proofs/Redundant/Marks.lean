import StoreGraph.Proofs.Redundant.Once

/-! # Marks of an offloaded dedup

An offloaded dedup over a memory cell marks a key by storing the current token under it. `Marked`
says which keys are marked: it is what the cell means while an enumeration is under way, and the
steps of the enumeration are described by how they change it. `SameMarks` bounds everything else
that happens meanwhile.
-/

namespace StoreGraph

open Storage

/-- The token cell holds the same, and so does the cell in which keys are marked. -/
structure SameMarks (cell : Ref .memory) (token : Ref .token) (w w' : World) : Prop where
  entries : w'.entries cell = w.entries cell
  current : w'.tokens.get token = w.tokens.get token

/-- Exactly the keys in the list carry the current token. -/
def Marked (cell : Ref .memory) (token : Ref .token) (shown : List Bytes) (w : World) : Prop :=
  ∀ key, (w.entries cell).get? key = some (Word.toBytes (w.tokens.get token)) ↔ key ∈ shown

namespace World

/-- The world in which a key is marked. -/
def mark (w : World) (cell : Ref .memory) (token : Ref .token) (key : Bytes) : World :=
  w.changeMemory cell (·.put key (Word.toBytes (w.tokens.get token)))

/-- The world in which the next token was drawn. -/
def rotate (w : World) (token : Ref .token) : World :=
  let drawn := w.randomness w.drawn
  { w with
    drawn := w.drawn + 1
    tokens := w.tokens.set token (if drawn = w.tokens.get token then drawn + 1 else drawn)
    events := w.events ++ [.tokenRotated] }

/-- The world in which the marks were cleared and a new epoch was begun. -/
def tidied (w : World) (cell : Ref .memory) (token : Ref .token) : World :=
  (w.changeMemory cell (·.clear)).rotate token

theorem entries_tidied (w : World) (cell cell' : Ref .memory) (token : Ref .token) :
    (w.tidied cell token).entries cell' = if cell' = cell then .empty else w.entries cell' :=
  entries_clear w cell cell'

end World

section Marks

variable {cell : Ref .memory} {token : Ref .token} {shown : List Bytes} {w w' : World}

namespace SameMarks

theorem refl (w : World) : SameMarks cell token w w := ⟨rfl, rfl⟩

theorem trans {w₁ w₂ w₃ : World} (first : SameMarks cell token w₁ w₂)
    (second : SameMarks cell token w₂ w₃) : SameMarks cell token w₁ w₃ :=
  ⟨second.entries.trans first.entries, second.current.trans first.current⟩

end SameMarks

namespace Marked

theorem same (h : Marked cell token shown w) (same : SameMarks cell token w w') :
    Marked cell token shown w' := by
  intro key
  rw [same.entries, same.current]
  exact h key

theorem congr {shown' : List Bytes} (h : Marked cell token shown w)
    (members : ∀ key, key ∈ shown ↔ key ∈ shown') : Marked cell token shown' w :=
  fun key => (h key).trans (members key)

/-- Marking a key marks it and no other. -/
theorem mark (h : Marked cell token shown w) (key : Bytes) :
    Marked cell token (key :: shown) (w.mark cell token key) := by
  intro key'
  have current : (w.mark cell token key).tokens.get token = w.tokens.get token := rfl
  rw [current, World.mark, World.entries_put, if_pos rfl, SortedMap.get?_insert, List.mem_cons]
  by_cases same : key' = key
  · simp [same]
  · simp only [same, if_false, false_or]
    exact h key'

/-- A cell without entries marks nothing, whatever the token is. -/
theorem of_empty (none : w.entries cell = .empty) : Marked cell token [] w := by
  intro key
  rw [none]
  simp

end Marked

/-! ## The operations of the dedup -/

theorem run_isSaved (key : Bytes) (w : World) :
    (DedupScheme.isSaved (memory cell) key (.offloaded token)).run w =
      .ok (decide ((w.entries cell).get? key = some (Word.toBytes (w.tokens.get token)))) w := by
  simp only [DedupScheme.isSaved, EStateM.run_bind, run_memory_find]
  cases (w.entries cell).get? key with
  | none => rfl
  | some marker =>
    simp only [DedupScheme.readToken, EStateM.run_bind, EStateM.run_get, EStateM.run_pure,
      Option.some.injEq]
    congr 1
    rw [Bool.eq_iff_iff, beq_iff_eq, decide_eq_true_iff]

theorem run_clear (w : World) :
    (DedupScheme.clear (memory cell) (.offloaded token)).run w =
      .ok () (w.changeMemory cell (·.clear)) := rfl

theorem run_reset (w : World) :
    (DedupScheme.reset (.offloaded token)).run w = .ok () (w.rotate token) := by
  simp only [DedupScheme.reset, DedupScheme.readToken, EStateM.run_bind, EStateM.run_get,
    EStateM.run_pure, StoreM.run_draw, EStateM.run_modify, StoreM.run_report, World.rotate]

/-! ## A visitor that is called once for each key -/

variable {τ : Type} {visit : Bytes → VisitM τ Unit}

/-- A key that is marked is passed over. -/
theorem run_visitOnce_of_marked {key : Bytes}
    (old : (w.entries cell).get? key = some (Word.toBytes (w.tokens.get token))) (t : τ)
    (flag : Bool) :
    (visitOnce (memory cell) (.offloaded token) visit key).run (w, t, flag) =
      .ok () (w, t, false) := by
  rw [run_visitOnce, run_isSaved, decide_eq_true old]

/-- A key that is not marked is marked and shown. -/
theorem run_visitOnce_of_unmarked {key : Bytes}
    (new : (w.entries cell).get? key ≠ some (Word.toBytes (w.tokens.get token))) (t : τ)
    (flag : Bool) :
    (visitOnce (memory cell) (.offloaded token) visit key).run (w, t, flag) =
      match (visit key).run (w.mark cell token key, t) with
      | .ok _ s => .ok () (s.1, s.2, false)
      | .error e s => .error e (s.1, s.2, true) := by
  rw [run_visitOnce, run_isSaved, decide_eq_false new]
  rfl

/-- What marking a key and the visitor change, the visitor that is called once for each key may
    change. -/
theorem leaves_visitOnce {between : World → World → Prop} (refl : ∀ w, between w w)
    (trans : ∀ a b c, between a b → between b c → between a c) {key : Bytes}
    (mark : ∀ w, between w (w.mark cell token key)) (apart : Leaves between (visit key)) :
    Leaves between (visitOnce (memory cell) (.offloaded token) visit key) := by
  rintro ⟨w, t, flag⟩
  rw [stateAfter]
  by_cases old : (w.entries cell).get? key = some (Word.toBytes (w.tokens.get token))
  · rw [run_visitOnce_of_marked old]
    exact refl w
  · rw [run_visitOnce_of_unmarked old]
    have moved := apart (w.mark cell token key, t)
    rw [stateAfter] at moved
    cases called : (visit key).run (w.mark cell token key, t) with
    | ok _ s =>
      rw [called] at moved
      exact trans _ _ _ (mark w) moved
    | error e s =>
      rw [called] at moved
      exact trans _ _ _ (mark w) moved

end Marks

end StoreGraph
