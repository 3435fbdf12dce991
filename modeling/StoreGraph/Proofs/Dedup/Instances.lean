import StoreGraph.Proofs.Creation
import StoreGraph.Proofs.Dedup.SharedStore

/-! # Offloaded dedups that share a store

Any number of offloaded dedups may save keys in one store, each in epochs of its own. A history
lists what was done with them, as far as it went well. An instance knows a key exactly if the last
save of the key was its own, in its present epoch, and the store was not cleared since (`SavedLast`,
`instances_know_own_saves`). Tokens of earlier epochs and of other instances stay in the store; they
do no harm as long as no word is drawn twice and none stood in the store before (`Fresh`).
-/

namespace StoreGraph

namespace SharedDedups

/-- The instance with the given token, over the shared store. -/
def instanceOf (s : Store) (d : Ref .token) : Dedup := ⟨.offloaded d, s⟩

inductive Act where
  | save (key : Bytes)
  | ask (key : Bytes)
  | clear
  | reset
  deriving Repr, DecidableEq

/-- What was done. -/
inductive Deed where
  /-- An instance was created. -/
  | created (d : Ref .token)
  /-- An instance was used. -/
  | did (d : Ref .token) (act : Act)
  deriving Repr, DecidableEq

/-- Use an instance; what it answers is not looked at. -/
def Act.perform (d : Dedup) : Act → StoreM Unit
  | save key => d.save key
  | ask key => do
    let _ ← d.isSaved key
  | clear => d.clear
  | reset => d.reset

/-- The histories of the instances that share a store, and the worlds that they lead to. Failing
    leaves no trace in the history. -/
inductive Ran (s : Store) (start : World) : List Deed → World → Prop where
  | start : Ran s start [] start
  | created {history w w' d} (before : Ran s start history w)
      (run : (Dedup.newOffloaded s).run w = .ok (instanceOf s d) w') :
      Ran s start (history ++ [.created d]) w'
  | did {history w w' d} (before : Ran s start history w) (known : .created d ∈ history) (act : Act)
      (run : (act.perform (instanceOf s d)).run w = .ok () w') :
      Ran s start (history ++ [.did d act]) w'
  | failed {history w w' d e} (before : Ran s start history w) (known : .created d ∈ history)
      (act : Act) (run : (act.perform (instanceOf s d)).run w = .error e w') :
      Ran s start history w'

/-- What takes from a key the mark of an instance: the key is saved, the instance begins an epoch,
    or the store is cleared, if it is able to. -/
def Unmarks (s : Store) (d : Ref .token) (key : Bytes) : Deed → Prop
  | .created d' => d' = d
  | .did _ (.save key') => key' = key
  | .did _ (.ask _) => False
  | .did _ .clear => s.clear? ≠ none
  | .did d' .reset => d' = d

/-- The instance saved the key, and nothing took its mark from the key since. -/
def SavedLast (s : Store) (d : Ref .token) (key : Bytes) (history : List Deed) : Prop :=
  ∃ before after, history = before ++ .did d (.save key) :: after ∧
    ∀ deed ∈ after, ¬ Unmarks s d key deed

/-- The words that were drawn between two worlds are all different, and none of them is a value of
    the map. -/
structure Fresh (start : World) (contents : Bytes → Option Bytes) (w : World) : Prop where
  distinct : ∀ i j, start.drawn ≤ i → i < j → j < w.drawn →
    start.randomness i ≠ start.randomness j
  foreign : ∀ i, start.drawn ≤ i → i < w.drawn → ∀ key,
    contents key ≠ some (Word.toBytes (start.randomness i))

section Histories

variable {s : Store} {d d' : Ref .token} {key : Bytes} {history : List Deed} {deed : Deed}

theorem savedLast_concat : SavedLast s d key (history ++ [deed]) ↔
    deed = .did d (.save key) ∨ ¬ Unmarks s d key deed ∧ SavedLast s d key history := by
  constructor
  · rintro ⟨before, after, split, kept⟩
    rcases List.eq_nil_or_concat after with rfl | ⟨after, last, rfl⟩
    · obtain ⟨-, same⟩ := List.append_inj' split rfl
      exact .inl (List.singleton_inj.mp same)
    · rw [List.concat_eq_append, ← List.cons_append, ← List.append_assoc] at split
      obtain ⟨rfl, same⟩ := List.append_inj' split rfl
      obtain rfl := List.singleton_inj.mp same
      simp only [List.concat_eq_append, List.forall_mem_append, List.forall_mem_singleton] at kept
      exact .inr ⟨kept.2, before, after, rfl, kept.1⟩
  · rintro (rfl | ⟨spared, before, after, rfl, kept⟩)
    · exact ⟨history, [], rfl, List.forall_mem_nil _⟩
    · refine ⟨before, after ++ [deed], by simp, ?_⟩
      simp only [List.forall_mem_append, List.forall_mem_singleton]
      exact ⟨kept, spared⟩

theorem savedLast_of_spared (spared : ¬ Unmarks s d key deed) :
    SavedLast s d key (history ++ [deed]) ↔ SavedLast s d key history := by
  rw [savedLast_concat]
  constructor
  · rintro (rfl | ⟨-, saved⟩)
    · exact absurd rfl spared
    · exact saved
  · exact fun saved => .inr ⟨spared, saved⟩

theorem not_savedLast_of_unmarked (other : deed ≠ .did d (.save key))
    (unmarked : Unmarks s d key deed) : ¬ SavedLast s d key (history ++ [deed]) := by
  rw [savedLast_concat]
  rintro (same | ⟨spared, -⟩)
  · exact other same
  · exact spared unmarked

end Histories

/-! ## What the store and the instances hold -/

/-- The second world comes after the first one. -/
structure Later (w w' : World) : Prop where
  drawn : w.drawn ≤ w'.drawn
  randomness : w'.randomness = w.randomness

theorem frame_later : Frame Later where
  refl _ := ⟨Nat.le_refl _, rfl⟩
  trans first second := ⟨Nat.le_trans first.drawn second.drawn,
    second.randomness.trans first.randomness⟩

theorem later_of_sameEpochs {w w' : World} (epochs : SameEpochs w w') : Later w w' :=
  ⟨Nat.le_of_eq epochs.drawn.symm, epochs.randomness⟩

theorem Fresh.before {start w w' : World} {contents : Bytes → Option Bytes}
    (fresh : Fresh start contents w') (later : Later w w') : Fresh start contents w where
  distinct i j first next last :=
    fresh.distinct i j first next (Nat.lt_of_lt_of_le last later.drawn)
  foreign i first last := fresh.foreign i first (Nat.lt_of_lt_of_le last later.drawn)

/-- The word was drawn between two worlds. -/
def Drawn (start w : World) (word : UInt64) : Prop :=
  ∃ i, start.drawn ≤ i ∧ i < w.drawn ∧ word = start.randomness i

theorem Drawn.later {start w w' : World} {word : UInt64} (drawn : Drawn start w word)
    (later : Later w w') : Drawn start w' word := by
  obtain ⟨i, first, last, same⟩ := drawn
  exact ⟨i, first, Nat.lt_of_lt_of_le last later.drawn, same⟩

/-- Every instance has a token of its own, the shared store holds nothing but tokens beside what it
    held before, and keys are marked as the history says. -/
structure Tracked (s : Store) (start : World) (contents : Bytes → Option Bytes)
    (history : List Deed) (w : World) (m : Bytes → Option Bytes) : Prop where
  minted : ∀ {d}, .created d ∈ history → Drawn start w (w.tokens.get d)
  apart : ∀ {d d'}, .created d ∈ history → .created d' ∈ history →
    w.tokens.get d = w.tokens.get d' → d = d'
  taken : ∀ {d}, .created d ∈ history → d.index < w.tokens.next
  held : ∀ {key value}, m key = some value →
    contents key = some value ∨ ∃ word, Drawn start w word ∧ value = Word.toBytes word
  marked : ∀ {d}, .created d ∈ history → ∀ key,
    m key = some (w.marker d) ↔ SavedLast s d key history

section Steps

variable {s : Store} {start w w' : World} {contents m : Bytes → Option Bytes}
  {history : List Deed} {d : Ref .token}

theorem tracked_start : Tracked s start contents [] start contents where
  minted known := nomatch known
  apart known := nomatch known
  taken known := nomatch known
  held held := .inl held
  marked known := nomatch known

namespace Tracked

/-- The tokens stay as they are, and the store comes to hold another map. -/
theorem changed (tracked : Tracked s start contents history w m) (epochs : SameEpochs w w')
    {history' : List Deed} {m' : Bytes → Option Bytes}
    (earlier : ∀ {d}, .created d ∈ history' → .created d ∈ history)
    (held : ∀ {key value}, m' key = some value →
      m key = some value ∨ ∃ d, .created d ∈ history ∧ value = w.marker d)
    (marked : ∀ {d}, .created d ∈ history → ∀ key,
      m' key = some (w.marker d) ↔ SavedLast s d key history') :
    Tracked s start contents history' w' m' := by
  have later := later_of_sameEpochs epochs
  have drawn : ∀ {d}, .created d ∈ history → Drawn start w' (w.tokens.get d) :=
    fun known => (tracked.minted known).later later
  refine ⟨?_, ?_, ?_, ?_, ?_⟩
  · intro d listed
    rw [epochs.tokens]
    exact drawn (earlier listed)
  · intro d d' first second same
    rw [epochs.tokens] at same
    exact tracked.apart (earlier first) (earlier second) same
  · intro d listed
    rw [epochs.tokens]
    exact tracked.taken (earlier listed)
  · intro key value present
    rcases held present with old | ⟨d, known, rfl⟩
    · rcases tracked.held old with initial | ⟨word, drawn, same⟩
      · exact .inl initial
      · exact .inr ⟨word, drawn.later later, same⟩
    · exact .inr ⟨_, drawn known, rfl⟩
  · intro d listed key
    rw [World.marker, epochs.tokens]
    exact marked (earlier listed) key

theorem same (tracked : Tracked s start contents history w m) (epochs : SameEpochs w w') :
    Tracked s start contents history w' m :=
  tracked.changed epochs id .inl tracked.marked

theorem created_before {act : Act} {d' : Ref .token}
    (listed : .created d' ∈ history ++ [.did d act]) : .created d' ∈ history := by
  simpa using listed

theorem saved (tracked : Tracked s start contents history w m) (epochs : SameEpochs w w')
    (known : .created d ∈ history) (key : Bytes) :
    Tracked s start contents (history ++ [.did d (.save key)]) w'
      (Function.update m key (some (w.marker d))) := by
  refine tracked.changed epochs created_before ?_ ?_
  · intro other value present
    by_cases same : other = key
    · rw [same, Function.update_self] at present
      exact .inr ⟨d, known, (Option.some.inj present).symm⟩
    · rw [Function.update_of_ne same] at present
      exact .inl present
  · intro d' known' other
    by_cases same : other = key
    · subst same
      rw [Function.update_self, savedLast_concat]
      constructor
      · intro marks
        have token := Word.toBytes_injective (Option.some.inj marks)
        rw [tracked.apart known known' token]
        exact .inl rfl
      · rintro (own | ⟨spared, -⟩)
        · cases own
          rfl
        · exact absurd rfl spared
    · have spared : ¬ Unmarks s d' other (.did d (.save key)) := Ne.symm same
      rw [Function.update_of_ne same, tracked.marked known', savedLast_of_spared spared]

theorem cleared (tracked : Tracked s start contents history w m) (epochs : SameEpochs w w')
    (able : s.clear? ≠ none) :
    Tracked s start contents (history ++ [.did d .clear]) w' fun _ => none := by
  refine tracked.changed epochs created_before (fun present => nomatch present) ?_
  exact fun _ _ => iff_of_false nofun (not_savedLast_of_unmarked nofun able)

/-- What changes neither tokens nor the store takes no mark from a key. -/
theorem idle (tracked : Tracked s start contents history w m) (epochs : SameEpochs w w')
    {act : Act} (harmless : ∀ d' key, ¬ Unmarks s d' key (.did d act)) :
    Tracked s start contents (history ++ [.did d act]) w' m := by
  refine tracked.changed epochs created_before .inl fun known' key => ?_
  rw [tracked.marked known', savedLast_of_spared (harmless _ key)]

end Tracked

/-- An instance begins an epoch, its first or another one, with the word that is drawn next. -/
structure Renews (start : World) (history : List Deed) (d : Ref .token) (deed : Deed)
    (w w' : World) : Prop where
  begins : deed = .created d ∨ deed = .did d .reset
  from_start : Later start w
  drawn : w'.drawn = w.drawn + 1
  word : w'.tokens.get d = start.randomness w.drawn
  others : ∀ {d'}, .created d' ∈ history → d' ≠ d → w'.tokens.get d' = w.tokens.get d'
  taken : d.index < w'.tokens.next
  room : w.tokens.next ≤ w'.tokens.next

namespace Renews

variable {deed : Deed} {d' : Ref .token} {word : UInt64}

theorem earlier (renews : Renews start history d deed w w')
    (listed : .created d' ∈ history ++ [deed]) (other : d' ≠ d) : .created d' ∈ history := by
  rcases List.mem_append.mp listed with earlier | last
  · exact earlier
  · rcases renews.begins with rfl | rfl
    · exact absurd (Deed.created.inj (List.mem_singleton.mp last)) other
    · cases List.mem_singleton.mp last

theorem still (renews : Renews start history d deed w w') (drawn : Drawn start w word) :
    Drawn start w' word := by
  obtain ⟨i, first, last, same⟩ := drawn
  have further := renews.drawn
  exact ⟨i, first, by omega, same⟩

/-- The word that is drawn is none that was drawn before. -/
theorem new (renews : Renews start history d deed w w') (fresh : Fresh start contents w')
    (drawn : Drawn start w word) : word ≠ start.randomness w.drawn := by
  obtain ⟨i, first, last, rfl⟩ := drawn
  have further := renews.drawn
  exact fresh.distinct i w.drawn first last (by omega)

theorem minted (renews : Renews start history d deed w w')
    (tracked : Tracked s start contents history w m) (listed : .created d' ∈ history ++ [deed]) :
    Drawn start w' (w'.tokens.get d') := by
  by_cases same : d' = d
  · have further := renews.drawn
    rw [same, renews.word]
    exact ⟨w.drawn, renews.from_start.drawn, by omega, rfl⟩
  · have earlier := renews.earlier listed same
    rw [renews.others earlier same]
    exact renews.still (tracked.minted earlier)

/-- The new token differs from those of the other instances. -/
theorem foreign (renews : Renews start history d deed w w') (fresh : Fresh start contents w')
    (tracked : Tracked s start contents history w m) (listed : .created d' ∈ history ++ [deed])
    (other : d' ≠ d) : w'.tokens.get d' ≠ w'.tokens.get d := by
  have earlier := renews.earlier listed other
  rw [renews.others earlier other, renews.word]
  exact renews.new fresh (tracked.minted earlier)

/-- No key carries the new token. -/
theorem unmarked (renews : Renews start history d deed w w') (fresh : Fresh start contents w')
    (tracked : Tracked s start contents history w m) (key : Bytes) :
    ¬ m key = some (w'.marker d) := by
  have further := renews.drawn
  intro present
  rw [World.marker, renews.word] at present
  rcases tracked.held present with initial | ⟨old, early, same⟩
  · exact fresh.foreign w.drawn renews.from_start.drawn (by omega) key initial
  · exact renews.new fresh early (Word.toBytes_injective same).symm

theorem marked (renews : Renews start history d deed w w') (fresh : Fresh start contents w')
    (tracked : Tracked s start contents history w m) (listed : .created d' ∈ history ++ [deed])
    (key : Bytes) : m key = some (w'.marker d') ↔ SavedLast s d' key (history ++ [deed]) := by
  by_cases same : d' = d
  · subst same
    apply iff_of_false (renews.unmarked fresh tracked key)
    rcases renews.begins with rfl | rfl
    · exact not_savedLast_of_unmarked nofun rfl
    · exact not_savedLast_of_unmarked nofun rfl
  · have earlier := renews.earlier listed same
    have spared : ¬ Unmarks s d' key deed := by
      rcases renews.begins with rfl | rfl
      · exact fun own => same own.symm
      · exact fun own => same own.symm
    rw [World.marker, renews.others earlier same, savedLast_of_spared spared]
    exact tracked.marked earlier key

theorem tracked (renews : Renews start history d deed w w') (fresh : Fresh start contents w')
    (tracked : Tracked s start contents history w m) :
    Tracked s start contents (history ++ [deed]) w' m := by
  refine ⟨renews.minted tracked, ?_, ?_, ?_, renews.marked fresh tracked⟩
  · intro d₁ d₂ first second same
    by_cases one : d₁ = d
    · subst one
      by_contra two
      exact renews.foreign fresh tracked second (Ne.symm two) same.symm
    · by_cases two : d₂ = d
      · subst two
        exact absurd same (renews.foreign fresh tracked first one)
      · have early := renews.earlier first one
        have early' := renews.earlier second two
        rw [renews.others early one, renews.others early' two] at same
        exact tracked.apart early early' same
  · intro d' listed
    by_cases same : d' = d
    · exact same ▸ renews.taken
    · exact Nat.lt_of_lt_of_le (tracked.taken (renews.earlier listed same)) renews.room
  · intro key value present
    rcases tracked.held present with initial | ⟨word, early, same⟩
    · exact .inl initial
    · exact .inr ⟨word, renews.still early, same⟩

end Renews

/-! ## What each act does -/

theorem run_save (key : Bytes) :
    ((instanceOf s d).save key).run w = (s.put key (w.marker d)).run w := rfl

theorem run_ask (key : Bytes) :
    ((instanceOf s d).isSaved key).run w = match (s.find? key).run w with
      | .ok found w' => .ok (found == some (w'.marker d)) w'
      | .error e w' => .error e w' := by
  have find : s.find? key = s.storage.find? key := rfl
  rw [find]
  simp only [instanceOf, Dedup.isSaved, DedupScheme.isSaved, EStateM.run_bind]
  cases (s.storage.find? key).run w with
  | error e w' => rfl
  | ok found w' =>
    cases found with
    | none => rfl
    | some marker => rfl

/-- A store that is not able to remove every key at once is left as it is. -/
theorem run_clear_unable (unable : s.clear? = none) :
    (instanceOf s d).clear.run w = .ok () w := by
  change (s.clear?.getD (pure ())).run w = _
  rw [unable]
  rfl

theorem run_clear_able {clear : StoreM Unit} (able : s.clear? = some clear) :
    (instanceOf s d).clear.run w = clear.run w := by
  change (s.clear?.getD (pure ())).run w = _
  rw [able]
  rfl

theorem run_reset_instance : (instanceOf s d).reset.run w = .ok () (w.rotate d) := run_reset w

variable {Keeps : World → (Bytes → Option Bytes) → Prop}

/-- The store holds a map, and if the words are fresh then everything is as the history says. -/
def Stands (s : Store) (Keeps : World → (Bytes → Option Bytes) → Prop) (start : World)
    (contents : Bytes → Option Bytes) (history : List Deed) (w : World) : Prop :=
  ∃ m, Keeps w m ∧ Later start w ∧
    (Fresh start contents w → Tracked s start contents history w m)

namespace Stands

theorem created (serves : ServesMap s Keeps) (stands : Stands s Keeps start contents history w) :
    Stands s Keeps start contents (history ++ [.created ⟨w.tokens.next⟩]) w.withToken := by
  obtain ⟨m, keeps, from_start, tracked⟩ := stands
  have later : Later w w.withToken := ⟨Nat.le_succ _, rfl⟩
  have beside : SameContents w w.withToken := ⟨rfl, rfl, rfl, rfl⟩
  refine ⟨m, serves.beside beside keeps, frame_later.trans from_start later, ?_⟩
  intro fresh
  have tracked := tracked (fresh.before later)
  refine Renews.tracked (d := ⟨w.tokens.next⟩)
    ⟨.inl rfl, from_start, rfl, ?_, ?_, Nat.lt_succ_self _, Nat.le_succ _⟩ fresh tracked
  · rw [← from_start.randomness]
    exact Table.get_alloc_self _ _
  · exact fun known _ => Table.get_alloc_of_lt _ (tracked.taken known) _

theorem reset (serves : ServesMap s Keeps) (stands : Stands s Keeps start contents history w)
    (known : .created d ∈ history) :
    Stands s Keeps start contents (history ++ [.did d .reset]) (w.rotate d) := by
  obtain ⟨m, keeps, from_start, tracked⟩ := stands
  have later : Later w (w.rotate d) := ⟨Nat.le_succ _, rfl⟩
  have beside : SameContents w (w.rotate d) := ⟨rfl, rfl, rfl, rfl⟩
  refine ⟨m, serves.beside beside keeps, frame_later.trans from_start later, ?_⟩
  intro fresh
  have tracked := tracked (fresh.before later)
  refine Renews.tracked (d := d) ⟨.inr rfl, from_start, rfl, ?_, ?_, tracked.taken known,
    Nat.le_refl _⟩ fresh tracked
  · obtain ⟨i, first, last, old⟩ := tracked.minted known
    have other : w.randomness w.drawn ≠ w.tokens.get d := by
      rw [old, from_start.randomness]
      exact (fresh.distinct i w.drawn first last (Nat.lt_succ_self _)).symm
    rw [← from_start.randomness]
    simp only [World.rotate, if_neg other, Table.get_set_self]
  · exact fun _ other => Table.get_set_of_ne _ other _

/-- What the store does to its map, the instances keep up with. -/
theorem turned {α : Type} {x : StoreM α} {a : α} {m m' : Bytes → Option Bytes}
    {history' : List Deed} (turns : Turns Keeps x w a m m') (from_start : Later start w)
    (tracked : Fresh start contents w → Tracked s start contents history w m)
    (advance : ∀ {w'}, SameEpochs w w' → Tracked s start contents history w m →
      Tracked s start contents history' w' m') :
    Ends x w (Stands s Keeps start contents history') (Stands s Keeps start contents history) := by
  have stands : ∀ {history'' m'' w'}, Keeps w' m'' → SameEpochs w w' →
      (Tracked s start contents history w m → Tracked s start contents history'' w' m'') →
        Stands s Keeps start contents history'' w' := by
    intro history'' m'' w' keeps epochs advance
    have later := later_of_sameEpochs epochs
    exact ⟨m'', keeps, frame_later.trans from_start later,
      fun fresh => advance (tracked (fresh.before later))⟩
  constructor
  · intro b w' run
    obtain ⟨keeps, epochs⟩ := turns.ends.ok run
    exact stands keeps epochs (advance epochs)
  · intro e w' run
    obtain ⟨keeps, epochs⟩ := turns.ends.error run
    exact stands keeps epochs (·.same epochs)

theorem performed (serves : ServesMap s Keeps) (stands : Stands s Keeps start contents history w)
    (known : .created d ∈ history) (act : Act) :
    Ends (act.perform (instanceOf s d)) w (Stands s Keeps start contents (history ++ [.did d act]))
      (Stands s Keeps start contents history) := by
  obtain ⟨m, keeps, from_start, tracked⟩ := id stands
  cases act with
  | save key =>
    exact .congr (run_save key) <| turned (serves.put keeps key (w.marker d)) from_start tracked
      fun epochs tracked => tracked.saved epochs known key
  | ask key =>
    have found : Ends (s.find? key) w
        (Stands s Keeps start contents (history ++ [.did d (.ask key)]))
        (Stands s Keeps start contents history) :=
      turned (serves.find keeps key) from_start tracked fun epochs tracked =>
        tracked.idle epochs fun _ _ => id
    have asked : ((Act.ask key).perform (instanceOf s d)).run w = match (s.find? key).run w with
        | .ok _ w' => .ok () w'
        | .error e w' => .error e w' := by
      simp only [Act.perform, EStateM.run_bind, run_ask]
      cases (s.find? key).run w <;> rfl
    cases ran : (s.find? key).run w with
    | ok _ w' =>
      rw [ran] at asked
      exact .of_ok asked (found.ok ran)
    | error e w' =>
      rw [ran] at asked
      exact .of_error asked (found.error ran)
  | clear =>
    cases able : s.clear? with
    | none =>
      have idle : Stands s Keeps start contents (history ++ [.did d .clear]) w :=
        ⟨m, keeps, from_start, fun fresh =>
          (tracked fresh).idle (frame_sameEpochs.refl w) fun _ _ unmarks => unmarks able⟩
      exact .of_ok (run_clear_unable able) idle
    | some clear =>
      have some : s.clear? ≠ none := by
        rw [able]
        exact Option.some_ne_none clear
      exact .congr (run_clear_able able) <|
        turned (serves.clear keeps clear able) from_start tracked
          fun epochs tracked => tracked.cleared epochs some
  | reset => exact .of_ok run_reset_instance (stands.reset serves known)

end Stands

theorem Ran.stands (serves : ServesMap s Keeps) (keeps : Keeps start contents)
    (ran : Ran s start history w) : Stands s Keeps start contents history w := by
  induction ran with
  | start => exact ⟨contents, keeps, frame_later.refl start, fun _ => tracked_start⟩
  | @created history w w' d before run ih =>
    rw [Dedup.run_newOffloaded] at run
    cases run
    exact ih.created serves
  | @did history w w' d before known act run ih =>
    exact (ih.performed serves known act).ok run
  | @failed history w w' d e before known act run ih =>
    exact (ih.performed serves known act).error run

/-! ## What the instances answer -/

/-- The instance answers as stated, unless the store fails to look the key up. -/
def Tells (s : Store) (d : Ref .token) (key : Bytes) (w : World) (known : Bool) : Prop :=
  ((instanceOf s d).isSaved key).run w = match (s.find? key).run w with
    | .ok _ w' => .ok known w'
    | .error e w' => .error e w'

theorem Ran.tells (serves : ServesMap s Keeps) (keeps : Keeps start contents)
    (ran : Ran s start history w) (fresh : Fresh start contents w) (known : .created d ∈ history)
    (key : Bytes) : ∃ answer, Tells s d key w answer ∧
      (answer = true ↔ SavedLast s d key history) := by
  obtain ⟨m, keeps, -, tracked⟩ := ran.stands serves keeps
  have marked := (tracked fresh).marked known key
  refine ⟨m key == some (w.marker d), ?_, ?_⟩
  · rw [Tells, run_ask]
    cases serves.find keeps key with
    | done run _ epochs =>
      simp only [run, World.marker, epochs.tokens]
    | failed run => rw [run]
  · rw [beq_iff_eq, marked]

/-- An instance tells a key as known exactly if its own save was the last one of the key and it has
    not begun another epoch since, nor was the store cleared. In particular a new epoch, which
    leaves the store alone, forgets every key, a save by another instance hides the key, and
    clearing a store that is not able to remove every key at once changes nothing. -/
theorem instances_know_own_saves (serves : ServesMap s Keeps) (keeps : Keeps start contents)
    (ran : Ran s start history w) (fresh : Fresh start contents w)
    (known : .created d ∈ history) :
    (∀ key, ∃ answer, Tells s d key w answer ∧ (answer = true ↔ SavedLast s d key history)) ∧
      (∃ w', (instanceOf s d).reset.run w = .ok () w' ∧ SameContents w w' ∧
        (Fresh start contents w' → ∀ key, Tells s d key w' false)) ∧
      (∀ d' key w', d' ≠ d → .created d' ∈ history →
        ((instanceOf s d').save key).run w = .ok () w' → Tells s d key w' false) ∧
      (s.clear? = none → ∀ d', (instanceOf s d').clear.run w = .ok () w) := by
  refine ⟨fun key => ran.tells serves keeps fresh known key, ?_, ?_, ?_⟩
  · refine ⟨w.rotate d, run_reset_instance, ⟨rfl, rfl, rfl, rfl⟩, fun fresh key => ?_⟩
    have after := ran.did known .reset run_reset_instance
    obtain ⟨answer, tells, iff⟩ :=
      after.tells serves keeps fresh (List.mem_append_left _ known) key
    have forgotten : ¬ SavedLast s d key (history ++ [.did d .reset]) :=
      not_savedLast_of_unmarked nofun rfl
    rwa [Bool.eq_false_iff.mpr (mt iff.mp forgotten)] at tells
  · intro d' key w' other known' run
    have after := ran.did known' (.save key) run
    have undrawn : w'.drawn = w.drawn := by
      obtain ⟨m, keeps, -, -⟩ := ran.stands serves keeps
      exact ((serves.put keeps key (w.marker d')).ends.ok run).2.drawn
    have fresh' : Fresh start contents w' :=
      ⟨fun i j first next last => fresh.distinct i j first next (undrawn ▸ last),
        fun i first last => fresh.foreign i first (undrawn ▸ last)⟩
    obtain ⟨answer, tells, iff⟩ :=
      after.tells serves keeps fresh' (List.mem_append_left _ known) key
    have hidden : ¬ SavedLast s d key (history ++ [.did d' (.save key)]) :=
      not_savedLast_of_unmarked (by rintro ⟨⟩; exact other rfl) rfl
    rwa [Bool.eq_false_iff.mpr (mt iff.mp hidden)] at tells
  · exact fun unable _ => run_clear_unable unable

end Steps

/-- A probe that is not able to remove every key at once, and that holds a value of its own. -/
def sharedProbe : PlainStore := .probe ⟨0⟩ {}

def sharedStart : World where
  randomness i := UInt64.ofNat i
  probes := { cells := SortedMap.empty.insert 0 { entries := SortedMap.empty.insert [7] [1] } }

/-- One instance saves a key, and another one tries to clear the store. -/
theorem instances_know_own_saves_unclearable :
    ∃ w, Ran sharedProbe.store sharedStart
        [.created ⟨0⟩, .created ⟨1⟩, .did ⟨0⟩ (.save [7]), .did ⟨1⟩ .clear] w ∧
      Tells sharedProbe.store ⟨0⟩ [7] w true ∧ Tells sharedProbe.store ⟨1⟩ [7] w false := by
  have keeps : sharedProbe.Agrees sharedStart (sharedProbe.entries sharedStart).get? :=
    ⟨FaultRule.candid_nil, fun _ => rfl⟩
  obtain ⟨w, ran, drawn⟩ : ∃ w, Ran sharedProbe.store sharedStart
      [.created ⟨0⟩, .created ⟨1⟩, .did ⟨0⟩ (.save [7]), .did ⟨1⟩ .clear] w ∧ w.drawn = 2 :=
    ⟨_, .did (.did (.created (.created .start rfl) rfl) (by decide) (.save [7]) rfl) (by decide)
      .clear rfl, rfl⟩
  have fresh : Fresh sharedStart (sharedProbe.entries sharedStart).get? w := by
    constructor
    · intro i j _ next last
      obtain rfl : i = 0 := by omega
      obtain rfl : j = 1 := by omega
      decide
    · intro i _ _ key held
      have first : (sharedProbe.entries sharedStart).get? key =
          if key = [7] then some [1] else none := SortedMap.get?_insert _ _ _ _
      rw [first] at held
      split at held
      · have short := congrArg List.length (Option.some.inj held)
        rw [Word.length_toBytes] at short
        cases short
      · cases held
  have spared : ∀ d, ¬ Unmarks sharedProbe.store d [7] (.did ⟨1⟩ .clear) :=
    fun _ unmarks => unmarks rfl
  obtain ⟨first, -⟩ := instances_know_own_saves (PlainStore.servesMap sharedProbe) keeps ran fresh
    (d := ⟨0⟩) (by decide)
  obtain ⟨second, -⟩ := instances_know_own_saves (PlainStore.servesMap sharedProbe) keeps ran fresh
    (d := ⟨1⟩) (by decide)
  refine ⟨w, ran, ?_, ?_⟩
  · obtain ⟨answer, tells, iff⟩ := first [7]
    have own : SavedLast sharedProbe.store ⟨0⟩ [7]
        [.created ⟨0⟩, .created ⟨1⟩, .did ⟨0⟩ (.save [7]), .did ⟨1⟩ .clear] :=
      ⟨[.created ⟨0⟩, .created ⟨1⟩], [.did ⟨1⟩ .clear], rfl,
        List.forall_mem_singleton.mpr (spared _)⟩
    rwa [iff.mpr own] at tells
  · obtain ⟨answer, tells, iff⟩ := second [7]
    have hidden : ¬ SavedLast sharedProbe.store ⟨1⟩ [7]
        (([.created ⟨0⟩, .created ⟨1⟩] ++ [.did ⟨0⟩ (.save [7])]) ++ [.did ⟨1⟩ .clear]) := by
      rw [savedLast_of_spared (spared _)]
      exact not_savedLast_of_unmarked nofun rfl
    rwa [Bool.eq_false_iff.mpr (mt iff.mp hidden)] at tells

end SharedDedups

end StoreGraph
