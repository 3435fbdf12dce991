import Mathlib.Logic.Relation
import StoreGraph.Proofs.Memory.Journal
import StoreGraph.Proofs.Shards.Cells

/-! # Nested in-memory stores

In-memory stores are nested under names, to any depth, and whoever has opened one may keep it, also
when its name was dropped meanwhile. What a store holds is told by the edits that were made to it,
and to no other one; which store is found under a name is told by what was opened and dropped there,
and by no edit. So a store that is in hand is never disturbed through another one, be it above,
below or beside it (`nested_stores_isolated`).
-/

namespace StoreGraph

namespace Namespaces

/-- What is done with a store of a tree of nested stores. -/
inductive Step where
  | edited (s : Ref .memory) (e : Edit)
  | opened (s : Ref .memory) (name : Bytes) (inner : Ref .memory)
  | dropped (s : Ref .memory) (name : Bytes)
  deriving DecidableEq

namespace Step

/-- The store with which something is done. -/
def subject : Step → Ref .memory
  | edited s _ | opened s _ _ | dropped s _ => s

def editOf? (s : Ref .memory) : Step → Option Edit
  | edited s' e => if s' = s then some e else none
  | opened .. | dropped .. => none

/-- The store under a name after the step, if this was the one under it before. -/
def find (s : Ref .memory) (name : Bytes) (found : Option (Ref .memory)) :
    Step → Option (Ref .memory)
  | edited .. => found
  | opened s' name' inner => if s' = s ∧ name' = name then some inner else found
  | dropped s' name' => if s' = s ∧ name' = name then none else found

end Step

/-- What was done so far, the first thing first. -/
abbrev History := List Step

namespace History

/-- The edits that were made to a store. -/
def edits (past : History) (s : Ref .memory) : Journal := past.filterMap (Step.editOf? s)

/-- The store that was opened under a name last and not dropped since. -/
def current (past : History) (s : Ref .memory) (name : Bytes) : Option (Ref .memory) :=
  past.foldl (Step.find s name) none

/-- The stores that are in somebody's hands: the root, and all that were ever opened. -/
def InHand (root : Ref .memory) (past : History) (s : Ref .memory) : Prop :=
  s = root ∨ ∃ outer name, Step.opened outer name s ∈ past

/-- The one store was opened in the other one. -/
def Holds (past : History) (outer inner : Ref .memory) : Prop :=
  ∃ name, Step.opened outer name inner ∈ past

variable {root s : Ref .memory} {past : History} {step : Step}

theorem edits_concat (past : History) (step : Step) (s : Ref .memory) :
    edits (past ++ [step]) s = past.edits s ++ (step.editOf? s).toList := by
  rw [edits, List.filterMap_append, List.filterMap_cons]
  cases step.editOf? s <;> rfl

theorem current_concat (past : History) (step : Step) (s : Ref .memory) (name : Bytes) :
    current (past ++ [step]) s name = step.find s name (past.current s name) := by
  rw [current, List.foldl_append]
  rfl

theorem inHand_concat : InHand root (past ++ [step]) s ↔
    past.InHand root s ∨ ∃ outer name, step = .opened outer name s := by
  simp only [InHand, List.mem_append, List.mem_singleton, exists_or, or_assoc, eq_comm]

theorem opened_of_current {name : Bytes} {inner : Ref .memory}
    (found : past.current s name = some inner) : .opened s name inner ∈ past := by
  induction past using List.reverseRecOn with
  | nil => cases found
  | append_singleton past step ih =>
    rw [current_concat] at found
    cases step with
    | edited s' e => exact List.mem_append_left _ (ih found)
    | opened s' name' inner' =>
      simp only [Step.find] at found
      split at found
      · rename_i here
        obtain ⟨rfl, rfl⟩ := here
        cases found
        exact List.mem_append_right _ List.mem_cons_self
      · exact List.mem_append_left _ (ih found)
    | dropped s' name' =>
      simp only [Step.find] at found
      split at found
      · cases found
      · exact List.mem_append_left _ (ih found)

end History

open History

/-- The runs on a tree of nested stores, from the making of its root on. -/
inductive Ran (root : Ref .memory) : History → World → Prop where
  | start {w w'} (run : Memory.create.run w = .ok root w') : Ran root [] w'
  | edit {past w w' s} (e : Edit) (before : Ran root past w) (inHand : past.InHand root s)
      (run : (e.ask (.memory s)).run w = .ok () w') : Ran root (past ++ [.edited s e]) w'
  | opening {past w w' s inner} (name : Bytes) (before : Ran root past w)
      (inHand : past.InHand root s) (run : (Memory.nested s name).run w = .ok inner w') :
      Ran root (past ++ [.opened s name inner]) w'
  | drop {past w w' s} (name : Bytes) (before : Ran root past w) (inHand : past.InHand root s)
      (run : (Memory.dropNested s name).run w = .ok () w') :
      Ran root (past ++ [.dropped s name]) w'

/-- How a store answers whatever is asked of it next. -/
structure Answers (root : Ref .memory) (past : History) (w : World) (s : Ref .memory) : Prop where
  get : ∀ key, ((Storage.memory s).get key).run w = match (past.edits s).held key with
    | some value => .ok value w
    | none => .error .notFound w
  keys : ∀ {τ : Type} (visit : Bytes → VisitM τ Unit) (t : τ),
    ((Storage.memory s).keys visit).run (w, t) = ((past.edits s).present.forM visit).run (w, t)
  edit : ∀ e : Edit, ∃ w', (e.ask (.memory s)).run w = .ok () w'
  /-- The store under a name stays the same until the name is dropped. -/
  again : ∀ name inner, past.current s name = some inner →
    (Memory.nested s name).run w = .ok inner w
  /-- Under a name that is new, or was dropped, there is then a store that nobody has ever had. -/
  anew : ∀ name, past.current s name = none → ∃ inner w',
    (Memory.nested s name).run w = .ok inner w' ∧ ¬ past.InHand root inner ∧ past.edits inner = []
  drop : ∀ name, ∃ w', (Memory.dropNested s name).run w = .ok () w'

/-- Stores that are in hand do not disturb each other. -/
structure Isolated (root : Ref .memory) (past : History) (w : World) : Prop where
  answers : ∀ s, past.InHand root s → Answers root past w s
  /-- An edit of a store changes nothing that another one answers. -/
  frame : ∀ s other (e : Edit) w', other ≠ s → (e.ask (.memory s)).run w = .ok () w' →
    (∀ key, outcome ((Storage.memory other).get key) w' =
      outcome ((Storage.memory other).get key) w) ∧
    outcome (Storage.memory other).allKeys w' = outcome (Storage.memory other).allKeys w
  /-- A store is found under one name of one other store only, and the root nowhere. -/
  placed : ∀ {outer name inner}, Step.opened outer name inner ∈ past → inner ≠ root ∧
    ∀ {outer' name'}, Step.opened outer' name' inner ∈ past → outer' = outer ∧ name' = name
  /-- No store is nested in itself, however deep. -/
  apart : ∀ s, ¬ Relation.TransGen past.Holds s s

/-! ## What a step preserves -/

/-- Stores are numbered in the order in which they were made. -/
structure Numbered (root : Ref .memory) (past : History) (next : Nat) : Prop where
  inHand : ∀ s, past.InHand root s → s.index < next
  subject : ∀ step ∈ past, past.InHand root step.subject
  placed : ∀ {outer name inner}, Step.opened outer name inner ∈ past → inner ≠ root ∧
    ∀ {outer' name'}, Step.opened outer' name' inner ∈ past → outer' = outer ∧ name' = name
  inward : ∀ {outer name inner}, Step.opened outer name inner ∈ past → outer.index < inner.index

/-- The cell of every store that is in hand is as was told. -/
structure Told (root : Ref .memory) (past : History) (w : World) : Prop where
  records : ∀ s, past.InHand root s → w.Records s (past.edits s)
  names : ∀ s, past.InHand root s → ∀ name,
    (w.memories.get s).namespaces.get? name = past.current s name

variable {root s : Ref .memory} {past : History} {step : Step} {next : Nat} {w w' : World}

/-- Nothing has been done with a store that nobody ever had. -/
theorem Numbered.untouched (numbered : Numbered root past next) (unknown : ¬ past.InHand root s) :
    past.edits s = [] ∧ ∀ name, past.current s name = none := by
  constructor
  · refine List.filterMap_eq_nil_iff.2 fun step done => ?_
    have known := numbered.subject step done
    cases step with
    | edited s' e =>
      have different : s' ≠ s := fun same => unknown (same ▸ known)
      exact if_neg different
    | opened s' name inner => rfl
    | dropped s' name => rfl
  · intro name
    cases found : past.current s name with
    | none => rfl
    | some inner => exact absurd (numbered.subject _ (opened_of_current found)) unknown

theorem inHand_concat_of_known (past : History) (step : Step)
    (known : ∀ outer name inner, step = .opened outer name inner → step ∈ past)
    (root s : Ref .memory) : InHand root (past ++ [step]) s ↔ past.InHand root s := by
  rw [inHand_concat, or_iff_left_iff_imp]
  rintro ⟨outer, name, rfl⟩
  exact .inr ⟨outer, name, known outer name s rfl⟩

/-- A step that opens no new store. -/
theorem Numbered.still (numbered : Numbered root past next) (inHand : past.InHand root step.subject)
    (known : ∀ outer name inner, step = .opened outer name inner → step ∈ past) :
    Numbered root (past ++ [step]) next := by
  have opened : ∀ {outer name inner}, Step.opened outer name inner ∈ past ++ [step] →
      Step.opened outer name inner ∈ past := by
    intro outer name inner listed
    rcases List.mem_append.1 listed with before | now
    · exact before
    · rw [List.mem_singleton.1 now]
      exact known outer name inner (List.mem_singleton.1 now).symm
  refine ⟨fun s here => ?_, ?_, fun listed => ?_, fun listed => numbered.inward (opened listed)⟩
  · exact numbered.inHand s ((inHand_concat_of_known past step known root s).1 here)
  · simp only [List.forall_mem_append, List.forall_mem_singleton,
      inHand_concat_of_known past step known]
    exact ⟨numbered.subject, inHand⟩
  · obtain ⟨notRoot, only⟩ := numbered.placed (opened listed)
    exact ⟨notRoot, fun other => only (opened other)⟩

/-- A step that makes a store. -/
theorem Numbered.made (numbered : Numbered root past next) (inHand : past.InHand root s)
    (name : Bytes) : Numbered root (past ++ [.opened s name ⟨next⟩]) (next + 1) := by
  have older : ∀ {outer name' inner}, Step.opened outer name' inner ∈ past → inner.index < next :=
    fun listed => numbered.inHand _ (.inr ⟨_, _, listed⟩)
  have opened : ∀ {outer name' inner},
      Step.opened outer name' inner ∈ past ++ [.opened s name ⟨next⟩] ↔
        Step.opened outer name' inner ∈ past ∨ outer = s ∧ name' = name ∧ inner = ⟨next⟩ := by
    simp only [List.mem_append, List.mem_singleton, Step.opened.injEq, implies_true]
  refine ⟨fun x here => ?_, ?_, fun listed => ?_, fun listed => ?_⟩
  · rcases inHand_concat.1 here with before | ⟨_, _, made⟩
    · exact Nat.lt_succ_of_lt (numbered.inHand x before)
    · cases made
      exact Nat.lt_succ_self next
  · simp only [List.forall_mem_append, List.forall_mem_singleton, inHand_concat]
    exact ⟨fun step done => .inl (numbered.subject step done), .inl inHand⟩
  · rcases opened.1 listed with before | ⟨rfl, rfl, rfl⟩
    · obtain ⟨notRoot, only⟩ := numbered.placed before
      refine ⟨notRoot, fun other => ?_⟩
      rcases opened.1 other with other | ⟨-, -, rfl⟩
      · exact only other
      · exact absurd (older before) (Nat.lt_irrefl next)
    · refine ⟨?_, fun other => ?_⟩
      · rintro rfl
        exact absurd (numbered.inHand _ (.inl rfl)) (Nat.lt_irrefl next)
      · rcases opened.1 other with other | ⟨same, sameName, -⟩
        · exact absurd (older other) (Nat.lt_irrefl next)
        · exact ⟨same, sameName⟩
  · rcases opened.1 listed with before | ⟨rfl, rfl, rfl⟩
    · exact numbered.inward before
    · exact numbered.inHand _ inHand

/-- The world in which the names of a store are changed. -/
def renamed (w : World) (s : Ref .memory)
    (f : SortedMap Bytes (Ref .memory) → SortedMap Bytes (Ref .memory)) : World :=
  w.changeMemory s fun m => { m with namespaces := f m.namespaces }

theorem entries_renamed (w : World) (s other : Ref .memory)
    (f : SortedMap Bytes (Ref .memory) → SortedMap Bytes (Ref .memory)) :
    (renamed w s f).entries other = w.entries other := by
  rw [renamed, World.entries_changeMemory]
  split
  · rename_i here
    rw [here, World.entries]
  · rfl

theorem memory_changeMemory (w : World) (s other : Ref .memory) (f : Memory → Memory) :
    (w.changeMemory s f).memories.get other =
      if other = s then f (w.memories.get s) else w.memories.get other := Table.get_set ..

theorem names_renamed (w : World) (s other : Ref .memory)
    (f : SortedMap Bytes (Ref .memory) → SortedMap Bytes (Ref .memory)) :
    ((renamed w s f).memories.get other).namespaces =
      if other = s then f (w.memories.get s).namespaces else (w.memories.get other).namespaces := by
  rw [renamed, memory_changeMemory]
  split <;> rfl

theorem run_nested (w : World) (s : Ref .memory) (name : Bytes) :
    (Memory.nested s name).run w = match (w.memories.get s).namespaces.get? name with
      | some inner => .ok inner w
      | none => .ok ⟨w.memories.next⟩
        (renamed w.withMemory s (·.insert name ⟨w.memories.next⟩)) := by
  simp only [Memory.nested, Memory.read, EStateM.run_bind, EStateM.run_get, EStateM.run_pure]
  cases (w.memories.get s).namespaces.get? name <;> rfl

theorem run_dropNested (w : World) (s : Ref .memory) (name : Bytes) :
    (Memory.dropNested s name).run w = .ok () (renamed w s (·.erase name)) := rfl

theorem Told.edit (told : Told root past w) (s : Ref .memory) (e : Edit) :
    Told root (past ++ [.edited s e]) (w.changeMemory s e.apply) := by
  have same := inHand_concat_of_known past (.edited s e) nofun root
  refine ⟨fun other here => ?_, fun other here name => ?_⟩
  · have records := told.records other ((same other).1 here)
    rw [edits_concat, Step.editOf?]
    split
    · rename_i here
      subst here
      exact records.edit e
    · rename_i different
      rw [Option.toList_none, List.append_nil]
      exact records.elsewhere (Ne.symm different) _
  · have kept : (e.apply (w.memories.get s)).namespaces = (w.memories.get s).namespaces := by
      cases e <;> rfl
    rw [current_concat, Step.find, ← told.names other ((same other).1 here), memory_changeMemory]
    split
    · rename_i here
      rw [here, kept]
    · rfl

/-- A store that was opened under a name before is opened once more. -/
theorem Told.again (told : Told root past w) {name : Bytes} {inner : Ref .memory}
    (found : past.current s name = some inner) :
    Told root (past ++ [.opened s name inner]) w := by
  have same := inHand_concat_of_known past (.opened s name inner)
    (fun _ _ _ _ => opened_of_current found) root
  refine ⟨fun other here => ?_, fun other here name' => ?_⟩
  · rw [edits_concat, Step.editOf?, Option.toList_none, List.append_nil]
    exact told.records other ((same other).1 here)
  · rw [current_concat, Step.find, told.names other ((same other).1 here)]
    split
    · rename_i here
      obtain ⟨rfl, rfl⟩ := here
      exact found
    · rfl

theorem Told.drop (told : Told root past w) (s : Ref .memory) (name : Bytes) :
    Told root (past ++ [.dropped s name]) (renamed w s (·.erase name)) := by
  have same := inHand_concat_of_known past (.dropped s name) nofun root
  refine ⟨fun other here => ?_, fun other here name' => ?_⟩
  · rw [edits_concat, Step.editOf?, Option.toList_none, List.append_nil, World.Records,
      entries_renamed]
    exact told.records other ((same other).1 here)
  · have names := told.names other ((same other).1 here) name'
    rw [current_concat, Step.find, names_renamed, ← names]
    by_cases here : other = s
    · subst here
      simp [SortedMap.get?_erase, eq_comm]
    · simp [here, Ne.symm here]

/-- A store is made, and nothing has been done with it yet. -/
theorem Told.made (told : Told root past w) (numbered : Numbered root past w.memories.next)
    (inHand : past.InHand root s) (name : Bytes) :
    Told root (past ++ [.opened s name ⟨w.memories.next⟩])
      (renamed w.withMemory s (·.insert name ⟨w.memories.next⟩)) := by
  have old : ∀ {other}, past.InHand root other →
      w.withMemory.memories.get other = w.memories.get other := fun here =>
    w.memories.get_alloc_of_lt (numbered.inHand _ here) {}
  have new : ¬ past.InHand root ⟨w.memories.next⟩ := fun here =>
    absurd (numbered.inHand _ here) (Nat.lt_irrefl _)
  have made : w.withMemory.memories.get ⟨w.memories.next⟩ = {} := w.memories.get_alloc_self {}
  obtain ⟨unedited, unnamed⟩ := numbered.untouched new
  refine ⟨fun other here => ?_, fun other here name' => ?_⟩
  · rw [edits_concat, Step.editOf?, Option.toList_none, List.append_nil, World.Records,
      entries_renamed]
    rcases inHand_concat.1 here with before | ⟨_, _, opened⟩
    · rw [World.entries, old before]
      exact told.records other before
    · cases opened
      rw [World.entries, made, unedited]
      rfl
  · rw [current_concat, Step.find, names_renamed, old inHand]
    rcases inHand_concat.1 here with before | ⟨_, _, opened⟩
    · rw [old before, ← told.names other before]
      by_cases here : other = s
      · subst here
        simp [SortedMap.get?_insert, eq_comm]
      · simp [here, Ne.symm here]
    · cases opened
      have apart : (⟨w.memories.next⟩ : Ref .memory) ≠ s := by
        rintro rfl
        exact new inHand
      rw [if_neg apart, if_neg fun same => apart same.1.symm, made, unnamed]
      rfl

/-! ## What a run preserves -/

theorem Ran.told (ran : Ran root past w) :
    Numbered root past w.memories.next ∧ Told root past w := by
  induction ran with
  | start run =>
    cases run
    refine ⟨⟨?_, nofun, nofun, nofun⟩, ⟨?_, ?_⟩⟩
    · rintro s (rfl | ⟨_, _, opened⟩)
      · exact Nat.lt_succ_self _
      · cases opened
    · rintro s (rfl | ⟨_, _, opened⟩)
      · exact World.records_nil (World.entries_withMemory_new _)
      · cases opened
    · rintro s (rfl | ⟨_, _, opened⟩) name
      · exact congrArg (fun m : Memory => m.namespaces.get? name) (Table.get_alloc_self _ {})
      · cases opened
  | edit e before inHand run ih =>
    obtain ⟨numbered, told⟩ := ih
    rw [Edit.run_ask] at run
    cases run
    exact ⟨numbered.still inHand nofun, told.edit _ e⟩
  | @opening past w w' s inner name before inHand run ih =>
    obtain ⟨numbered, told⟩ := ih
    rw [run_nested, told.names s inHand] at run
    cases found : past.current s name with
    | some inner' =>
      rw [found] at run
      cases run
      exact ⟨numbered.still inHand fun _ _ _ _ => opened_of_current found, told.again found⟩
    | none =>
      rw [found] at run
      cases run
      exact ⟨numbered.made inHand name, told.made numbered inHand name⟩
  | drop name before inHand run ih =>
    obtain ⟨numbered, told⟩ := ih
    cases run
    exact ⟨numbered.still inHand nofun, told.drop _ name⟩

theorem Told.answers (told : Told root past w) (numbered : Numbered root past w.memories.next)
    (inHand : past.InHand root s) : Answers root past w s where
  get := (told.records s inHand).run_get
  keys visit t := by
    rw [← (told.records s inHand).keys]
    rfl
  edit e := ⟨_, e.run_ask s w⟩
  again name inner found := by rw [run_nested, told.names s inHand, found]
  anew name unknown := by
    have new : ¬ past.InHand root ⟨w.memories.next⟩ := fun here =>
      absurd (numbered.inHand _ here) (Nat.lt_irrefl _)
    have run := run_nested w s name
    rw [told.names s inHand, unknown] at run
    exact ⟨_, _, run, new, (numbered.untouched new).1⟩
  drop name := ⟨_, run_dropNested w s name⟩

/-- What is nested in a store was made after it. -/
theorem Numbered.lt_of_holds (numbered : Numbered root past next) {outer inner : Ref .memory}
    (within : Relation.TransGen past.Holds outer inner) : outer.index < inner.index := by
  induction within with
  | single opened =>
    obtain ⟨name, opened⟩ := opened
    exact numbered.inward opened
  | tail _ opened ih =>
    obtain ⟨name, opened⟩ := opened
    exact Nat.lt_trans ih (numbered.inward opened)

theorem edit_elsewhere {other : Ref .memory} (different : other ≠ s) (e : Edit)
    (run : (e.ask (.memory s)).run w = .ok () w') :
    (∀ key, outcome ((Storage.memory other).get key) w' =
      outcome ((Storage.memory other).get key) w) ∧
    outcome (Storage.memory other).allKeys w' = outcome (Storage.memory other).allKeys w := by
  rw [Edit.run_ask] at run
  cases run
  have same : (w.changeMemory s e.apply).entries other = w.entries other := by
    rw [World.entries_changeMemory, if_neg different]
  refine ⟨fun key => ?_, ?_⟩
  · simp only [outcome, Storage.run_memory_get, same]
    cases (w.entries other).get? key <;> rfl
  · rw [outcome_ok (Storage.run_memory_allKeys other _),
      outcome_ok (Storage.run_memory_allKeys other w), same]

/-- Every run on a tree of nested stores, of any shape and in any order: each store that is in hand
    holds what was put into it and no more, dropped or not; a name stands for one store until it is
    dropped there, and for a new one afterwards. Clearing a store is an edit like any other. -/
theorem nested_stores_isolated (ran : Ran root past w) : Isolated root past w := by
  obtain ⟨numbered, told⟩ := ran.told
  exact {
    answers := fun s inHand => told.answers numbered inHand
    frame := fun s other e w' different run => edit_elsewhere different e run
    placed := numbered.placed
    apart := fun s within => Nat.lt_irrefl _ (numbered.lt_of_holds within) }

/-- A store stays what it is when its name is dropped, and then stands for another store. -/
theorem nested_stores_isolated_detached :
    let past : History :=
      [.opened ⟨0⟩ [1] ⟨1⟩, .edited ⟨0⟩ (.put [7] [0]), .edited ⟨1⟩ (.put [7] [1]),
        .edited ⟨0⟩ .clear, .dropped ⟨0⟩ [1], .edited ⟨1⟩ (.put [8] [2]), .opened ⟨0⟩ [1] ⟨2⟩]
    ∃ w, Ran ⟨0⟩ past w ∧ Isolated ⟨0⟩ past w ∧
      ((Storage.memory ⟨1⟩).get [7]).run w = .ok [1] w ∧
      ((Storage.memory ⟨1⟩).get [8]).run w = .ok [2] w ∧
      ((Storage.memory ⟨2⟩).get [7]).run w = .error .notFound w := by
  have begun : Ran ⟨0⟩ [] _ := .start (w := { randomness := fun _ => 0 }) rfl
  have root : ∀ past, InHand ⟨0⟩ past ⟨0⟩ := fun _ => .inl rfl
  have opened := begun.opening [1] (root _) rfl
  have first : ∀ later, InHand ⟨0⟩ (.opened ⟨0⟩ [1] ⟨1⟩ :: later) ⟨1⟩ := fun _ =>
    .inr ⟨_, _, List.mem_cons_self⟩
  have cleared := ((opened.edit (.put [7] [0]) (root _) rfl).edit (.put [7] [1]) (first _) rfl).edit
    .clear (root _) rfl
  have dropped := (cleared.drop [1] (root _) rfl).edit (.put [8] [2]) (first _) rfl
  have ran := dropped.opening [1] (root _) rfl
  have isolated := nested_stores_isolated ran
  have kept := isolated.answers ⟨1⟩ (first _)
  exact ⟨_, ran, isolated, kept.get [7], kept.get [8], rfl⟩

end Namespaces

end StoreGraph
