import StoreGraph.Proofs.Graph.Epochs

/-! # Enumerations that share dedup stores

While a redundant store enumerates its copies, redundant stores among them run enumerations of their
own, and may remember keys in the same cells. They can erase each other's marks but not forge them,
so a store passes over a key only if it was shown before: every key that a leaf holds is shown
(`shows_all`). It is shown once by a store whose marks are not erased meanwhile
(`shows_redundant`).
-/

namespace StoreGraph

open Store Footprint

/-! ## Marks in any store -/

section Marks

variable {token : Ref .token} {offload : Store} {key : Bytes}

/-- A key counts as saved only if a leaf holds its mark, and it does if all leaves do to which it
    belongs. -/
theorem run_isSaved_any (wired : offload.Wired) (token : Ref .token) (key : Bytes) (w : World) :
    ∃ saved, (DedupScheme.isSaved offload.storage key (.offloaded token)).run w = .ok saved w ∧
      (saved = true → ∃ cell, LeafFor key offload cell ∧
        (w.entries cell).get? key = some (w.marker token)) ∧
      ((∀ cell, LeafFor key offload cell → (w.entries cell).get? key = some (w.marker token)) →
        saved = true) := by
  obtain ⟨found, run, held⟩ := run_get_any wired key w
  have finds : (offload.storage.find? key).run w = .ok found w := by
    have read : (offload.storage.get key).run w = answer w found := run
    simp only [Storage.find?, EStateM.run_bind, run_attempt, read]
    cases found <;> rfl
  have agreed : (∀ cell, LeafFor key offload cell →
      (w.entries cell).get? key = some (w.marker token)) → found = some (w.marker token) := by
    intro all
    have same := run.symm.trans (run_get wired all)
    cases found with
    | none => cases same
    | some value =>
      cases same
      rfl
  cases found with
  | none =>
    refine ⟨false, ?_, fun saved => absurd saved Bool.false_ne_true, fun all => ?_⟩
    · simp only [DedupScheme.isSaved, EStateM.run_bind, finds]
      rfl
    · cases agreed all
  | some value =>
    refine ⟨value == w.marker token, ?_, ?_, ?_⟩
    · simp only [DedupScheme.isSaved, EStateM.run_bind, finds]
      rfl
    · intro saved
      obtain rfl := beq_iff_eq.mp saved
      exact held _ rfl
    · intro all
      exact beq_iff_eq.mpr (Option.some.inj (agreed all))

/-- A visitor that is called once for each key either passes over the key, which then is marked, or
    marks the key and is called. -/
theorem run_visitOnce_any (wired : offload.Wired) (token : Ref .token) {τ : Type}
    (visit : Bytes → VisitM τ Unit) (key : Bytes) (w : World) (t : τ) (flag : Bool) :
    ((∃ cell, LeafFor key offload cell ∧ (w.entries cell).get? key = some (w.marker token)) ∧
      (Storage.visitOnce offload.storage (.offloaded token) visit key).run (w, t, flag) =
        .ok () (w, t, false)) ∨
    ∃ w', ¬ (∀ cell, LeafFor key offload cell →
        (w.entries cell).get? key = some (w.marker token)) ∧
      (offload.put key (w.marker token)).run w = .ok () w' ∧
      (Storage.visitOnce offload.storage (.offloaded token) visit key).run (w, t, flag) =
        match (visit key).run (w', t) with
        | .ok _ s => .ok () (s.1, s.2, false)
        | .error e s => .error e (s.1, s.2, true) := by
  obtain ⟨saved, asked, marked, unmarked⟩ := run_isSaved_any wired token key w
  cases saved with
  | true =>
    refine .inl ⟨marked rfl, ?_⟩
    simp only [Storage.visitOnce, EStateM.run_bind, run_attempt, StoreM.run_visiting, asked,
      if_true, EStateM.run_pure]
    rfl
  | false =>
    obtain ⟨w', run, -⟩ := writes_put wired key (w.marker token) w
    have saves : (DedupScheme.save offload.storage key (.offloaded token)).run w = .ok () w' := run
    refine .inr ⟨w', fun all => absurd (unmarked all) Bool.false_ne_true, run, ?_⟩
    simp only [Storage.visitOnce, EStateM.run_bind, run_attempt, StoreM.run_visiting, asked,
      Bool.false_eq_true, if_false, saves, VisitM.run_besides]
    cases (visit key).run (w', t) with
    | ok _ s => rfl
    | error e s => rfl

/-- Clearing never fails. -/
theorem run_clear_any (wired : offload.Wired) (token : Ref .token) (w : World) :
    ∃ w', (DedupScheme.clear offload.storage (.offloaded token)).run w = .ok () w' := by
  cases wired with
  | memory => exact ⟨_, rfl⟩
  | sharded => exact ⟨_, rfl⟩
  | redundant => exact ⟨_, rfl⟩

end Marks

/-! ## What a store has shown -/

/-- The keys are marked wherever they belong. -/
def Recalled (offload : Store) (token : Ref .token) (shown : List Bytes) (w : World) : Prop :=
  ∀ key ∈ shown, ∀ cell, LeafFor key offload cell →
    (w.entries cell).get? key = some (w.marker token)

/-- Of the keys that were delivered, the fresh ones were shown, after others before. If no mark is
    erased, which is expressed by `exact`, none was shown again. -/
structure Delivers (root offload : Store) (token : Ref .token) (exact : Prop)
    (shown keys fresh : List Bytes) (w w' : World) : Prop where
  noted : Noted root token (fresh ++ shown) w'
  part : ∀ key ∈ fresh, key ∈ keys
  whole : ∀ key ∈ keys, key ∈ shown ∨ key ∈ fresh
  once : exact → Recalled offload token shown w → Recalled offload token (fresh ++ shown) w' ∧
    fresh.Nodup ∧ ∀ key ∈ fresh, key ∉ shown

section Delivery

variable {root offload : Store} {token : Ref .token} {exact : Prop} {words : Nat → UInt64}
  {bound : Nat} {shown keys fresh : List Bytes} {key : Bytes} {w w₁ w₂ : World}

theorem Recalled.mono {shown' : List Bytes} (h : Recalled offload token shown w)
    (fewer : ∀ key ∈ shown', key ∈ shown) : Recalled offload token shown' w :=
  fun key member => h key (fewer key member)

theorem Delivers.append {later fresh' : List Bytes}
    (first : Delivers root offload token exact shown keys fresh w w₁)
    (second : Delivers root offload token exact (fresh ++ shown) later fresh' w₁ w₂) :
    Delivers root offload token exact shown (keys ++ later) (fresh ++ fresh') w w₂ where
  noted := second.noted.mono (by simp; grind)
  part key member := by
    obtain member | member := List.mem_append.mp member
    · exact List.mem_append_left _ (first.part key member)
    · exact List.mem_append_right _ (second.part key member)
  whole key member := by
    rw [List.mem_append]
    obtain member | member := List.mem_append.mp member
    · obtain before | shown := first.whole key member
      · exact .inl before
      · exact .inr (.inl shown)
    · obtain before | shown := second.whole key member
      · exact (List.mem_append.mp before).elim (fun shown => .inr (.inl shown)) .inl
      · exact .inr (.inr shown)
  once unerased recalled := by
    obtain ⟨recalled₁, nodup₁, new₁⟩ := first.once unerased recalled
    obtain ⟨recalled₂, nodup₂, new₂⟩ := second.once unerased recalled₁
    refine ⟨recalled₂.mono (by simp; grind), ?_, ?_⟩
    · refine List.nodup_append.mpr ⟨nodup₁, nodup₂, ?_⟩
      rintro key member _ member' rfl
      exact new₂ key member' (List.mem_append_left _ member)
    · intro key member
      obtain member | member := List.mem_append.mp member
      · exact new₁ key member
      · exact fun before => new₂ key member (List.mem_append_right _ before)

/-- What happens to the marks of a store while others are at work. -/
abbrev Undisturbed (root offload : Store) (token : Ref .token) (exact : Prop)
    (words : Nat → UInt64) (bound : Nat) : World → World → Prop :=
  Spares root words bound (· = token) fun cell => exact ∧ Leaf offload cell

theorem delivers_nothing (quiet : Undisturbed root offload token exact words bound w w₁)
    (within : w₁.drawn ≤ bound) (settled : Settled root words w)
    (noted : Noted root token shown w) :
    Delivers root offload token exact shown [] [] w w₁ where
  noted := quiet.noted within settled rfl noted
  part := nofun
  whole := nofun
  once unerased recalled := by
    refine ⟨?_, List.nodup_nil, nofun⟩
    intro key member cell leaf
    rw [quiet.entries ⟨unerased, leaf.leaf⟩, World.marker, quiet.current rfl]
    exact recalled key member cell leaf

theorem delivers_old {cell : Ref .memory} (scratch : Scratch root cell)
    (marked : (w.entries cell).get? key = some (w.marker token))
    (noted : Noted root token shown w) :
    Delivers root offload token exact shown [key] [] w w where
  noted := noted
  part := nofun
  whole := List.forall_mem_singleton.mpr (.inl (noted scratch marked))
  once _ recalled := ⟨recalled, List.nodup_nil, nofun⟩

theorem delivers_new (wired : offload.Wired)
    (unmarked : ¬ ∀ cell, LeafFor key offload cell →
      (w.entries cell).get? key = some (w.marker token))
    (saved : (offload.put key (w.marker token)).run w = .ok () w₁)
    (noted : Noted root token shown w) :
    Delivers root offload token exact shown [key] [key] w w₁ := by
  have epochs := (put_sameEpochs wired key (w.marker token)).of_ok saved
  have same : w₁.marker token = w.marker token := by
    rw [World.marker, epochs.tokens, World.marker]
  obtain ⟨w', run, wrote⟩ := writes_put wired key (w.marker token) w
  rw [saved] at run
  cases run
  refine ⟨?_, fun _ member => member, fun _ => .inr, ?_⟩
  · intro cell key' marks held
    by_cases here : LeafFor key offload cell ∧ key' = key
    · exact List.mem_append_left _ (List.mem_singleton.mpr here.2)
    · rw [wrote.kept cell key' here, same] at held
      exact List.mem_append_right _ (noted marks held)
  · intro _ recalled
    refine ⟨?_, List.nodup_cons.mpr ⟨List.not_mem_nil, List.nodup_nil⟩, ?_⟩
    · intro key' member cell leaf
      rw [same]
      by_cases here : key' = key
      · subst here
        exact wrote.written cell leaf
      · rw [wrote.kept cell key' fun both => here both.2]
        have earlier := (List.mem_append.mp member).resolve_left (by simpa using here)
        exact recalled key' earlier cell leaf
    · exact List.forall_mem_singleton.mpr fun member => unmarked (recalled key member)

theorem Delivers.reports {held : Bytes → Prop} {ending : Ending}
    (h : Delivers root offload token exact [] keys fresh w w₁)
    (reports : Reports held keys ending) : Reports held fresh ending where
  unfailing := reports.unfailing
  sound key member := reports.sound key (h.part key member)
  whole ended key holds := (h.whole key (reports.whole ended key holds)).resolve_left nofun

/-- Of the keys that a store below showed, the fresh ones were shown on, as long as no word is drawn
    twice. -/
structure Forwards (root offload : Store) (token : Ref .token) (exact : Prop) (words : Nat → UInt64)
    (bound : Nat) (keys fresh : List Bytes) (w w' : World) : Prop where
  drawn : w.drawn ≤ w'.drawn
  delivers : ∀ {shown}, w'.drawn ≤ bound → Settled root words w → Noted root token shown w →
    Settled root words w' ∧ Delivers root offload token exact shown keys fresh w w'

theorem Forwards.append {later fresh' : List Bytes}
    (first : Forwards root offload token exact words bound keys fresh w w₁)
    (second : Forwards root offload token exact words bound later fresh' w₁ w₂) :
    Forwards root offload token exact words bound (keys ++ later) (fresh ++ fresh') w w₂ where
  drawn := Nat.le_trans first.drawn second.drawn
  delivers within settled noted := by
    obtain ⟨settled₁, delivered⟩ :=
      first.delivers (Nat.le_trans second.drawn within) settled noted
    obtain ⟨settled₂, delivered'⟩ := second.delivers within settled₁ delivered.noted
    exact ⟨settled₂, delivered.append delivered'⟩

theorem forwards_nothing (quiet : Undisturbed root offload token exact words bound w w₁) :
    Forwards root offload token exact words bound [] [] w w₁ :=
  ⟨quiet.drawn, fun within settled noted =>
    ⟨quiet.settled within settled, delivers_nothing quiet within settled noted⟩⟩

theorem forwards_old {cell : Ref .memory} (scratch : Scratch root cell)
    (marked : (w.entries cell).get? key = some (w.marker token)) :
    Forwards root offload token exact words bound [key] [] w w :=
  ⟨Nat.le_refl _, fun _ settled noted => ⟨settled, delivers_old scratch marked noted⟩⟩

theorem forwards_new (own : Tokens root token) (wired : offload.Wired)
    (unmarked : ¬ ∀ cell, LeafFor key offload cell →
      (w.entries cell).get? key = some (w.marker token))
    (saved : (offload.put key (w.marker token)).run w = .ok () w₁) :
    Forwards root offload token exact words bound [key] [key] w w₁ := by
  have spared : Spares root words bound (fun _ => False) (fun _ => False) w w₁ :=
    spares_save own wired nofun nofun saved
  exact ⟨spared.drawn, fun within settled noted =>
    ⟨spared.settled within settled, delivers_new wired unmarked saved noted⟩⟩

/-- While a store below shows its keys, those are shown on that are not known to have been shown
    before. -/
theorem shows_once (own : Tokens root token) (wired : offload.Wired)
    (scratch : ∀ cell, Leaf offload cell → Scratch root cell) {below between : World → World → Prop}
    (quiet : ∀ w w', below w w' → Undisturbed root offload token exact words bound w w')
    (frame : Frame between)
    (lift : ∀ w w', below w w' → between w w')
    (marks : ∀ key w w', (offload.put key (w.marker token)).run w = .ok () w' → between w w')
    {τ : Type} {visit : Bytes → VisitM τ Unit}
    (visits : ∀ key, Leaves (Undisturbed root offload token exact words bound) (visit key))
    {t : τ} {ending : Ending} {stop : World × τ × Bool}
    (course : Shows below (Storage.visitOnce offload.storage (.offloaded token) visit)
      (w, t, false) keys ending stop) :
    ∃ fresh, Shows between visit (w, t) fresh ending (stop.1, stop.2.1) ∧
      stop.2.2 = ending.stoppedWith?.isSome ∧
      Forwards root offload token exact words bound keys fresh w stop.1 := by
  have trans : ∀ a b c, between a b → between b c → between a c := fun _ _ _ => frame.trans
  generalize begins : (w, t, false) = start at course
  induction course generalizing w t with
  | finish outcome first =>
    cases begins
    exact ⟨[], .finish outcome (lift _ _ first), rfl, forwards_nothing (quiet _ _ first)⟩
  | @shown w w₁ t key s keys ending stop first call rest ih =>
    cases begins
    have before := forwards_nothing (quiet _ _ first)
    obtain ⟨⟨cell, leaf, marked⟩, run⟩ | ⟨w₂, unmarked, saved, run⟩ :=
      run_visitOnce_any wired token visit key w₁ _ false
    · rw [run] at call
      cases call
      obtain ⟨fresh, further, flag, later⟩ := ih rfl
      have old := before.append (forwards_old (scratch cell leaf.leaf) marked)
      exact ⟨fresh, further.prepend trans (lift _ _ first), flag, old.append later⟩
    · rw [run] at call
      cases called : (visit key).run (w₂, t) with
      | error e s' =>
        rw [called] at call
        cases call
      | ok _ s' =>
        rw [called] at call
        cases call
        obtain ⟨fresh, further, flag, later⟩ := ih rfl
        have marking := trans _ _ _ (lift _ _ first) (marks key w₁ w₂ saved)
        have new := (forwards_new own wired unmarked saved).append
          (forwards_nothing ((visits key).of_ok called))
        exact ⟨key :: fresh, .shown marking called further, flag, (before.append new).append later⟩
  | @stop w w₁ w₂ w₃ t t' key e first call after =>
    cases begins
    have before := forwards_nothing (quiet _ _ first)
    obtain ⟨-, run⟩ | ⟨w₂', unmarked, saved, run⟩ :=
      run_visitOnce_any wired token visit key w₁ _ false
    · rw [run] at call
      cases call
    · rw [run] at call
      cases called : (visit key).run (w₂', t) with
      | ok _ s' =>
        rw [called] at call
        cases call
      | error e' s' =>
        rw [called] at call
        cases call
        have marking := trans _ _ _ (lift _ _ first) (marks key w₁ w₂' saved)
        have new := (forwards_new own wired unmarked saved).append
          (forwards_nothing ((visits key).of_error called))
        exact ⟨[key], .stop marking called (lift _ _ after), rfl,
          (before.append new).append (forwards_nothing (quiet _ _ after))⟩

end Delivery

/-! ## Whole enumerations -/

/-- No key is marked with one of the tokens. -/
def Idle (root : Store) (tokens : Ref .token → Prop) (w : World) : Prop :=
  ∀ ⦃token⦄, tokens token → Noted root token [] w

/-- What enumerating a store below the root changes beside what its visitor does. -/
abbrev Works (root : Store) (words : Nat → UInt64) (bound : Nat) (s : Store) :
    World → World → Prop :=
  Spares root words bound (fun token => Tokens root token ∧ ¬ Tokens s token)
    fun cell => ¬ Scratch s cell

/-- The redundant stores below the root have dedup stores that can be written to and that hold no
    data, and each has a token of its own. -/
structure Arranged (root : Store) : Prop where
  served : Served root
  apart : ∀ {cell}, Scratch root cell → ¬ Leaf root cell
  own : ∀ {policy backs token offload},
    Spans root (.redundant policy backs (.offloaded token) offload) → ∀ s ∈ backs, ¬ Tokens s token

section Enumerations

variable {root s : Store} {words : Nat → UInt64} {bound : Nat} {tokens : Ref .token → Prop}
  {τ : Type} {visit : Bytes → VisitM τ Unit} {keys : List Bytes} {ending : Ending}
  {w : World} {t : τ} {stop : World × τ}

/-- An enumeration, from a world in which nothing is marked with its tokens, shows what the leaves
    hold, and ends in such a world. -/
def ShowsAll (root : Store) (words : Nat → UInt64) (bound : Nat) (s : Store) : Prop :=
  ∀ {τ : Type} (visit : Bytes → VisitM τ Unit) (w : World) (t : τ),
    (∀ key, Leaves (Spares root words bound (Tokens s) (Leaf root)) (visit key)) →
      ∃ keys ending stop, Shows (Works root words bound s) visit (w, t) keys ending stop ∧
        (s.keys visit).run (w, t) = ending.result stop ∧
        (ending = .finished (.ok ()) ∨ ∃ e, ending = .stopped e) ∧
        (stop.1.drawn ≤ bound → Settled root words w → Idle root (Tokens s) w →
          Settled root words stop.1 ∧ Idle root (Tokens s) stop.1 ∧
            Reports ((of s).Holds w) keys ending)

/-- An enumeration together with the calls of its visitor. -/
theorem spares_course (arranged : Arranged root) (spans : Spans root s)
    (rooted : ∀ token, tokens token → Tokens root token)
    (visits : ∀ key, Leaves (Spares root words bound tokens (Leaf root)) (visit key))
    (course : Shows (Works root words bound s) visit (w, t) keys ending stop) :
    Spares root words bound (fun token => tokens token ∧ ¬ Tokens s token) (Leaf root) w
      stop.1 := by
  let Spared : World → World → Prop :=
    Spares root words bound (fun token => tokens token ∧ ¬ Tokens s token) (Leaf root)
  have works : ∀ w w', Works root words bound s w w' → Spared w w' := fun w w' works =>
    works.mono (fun token h => ⟨rooted token h.1, h.2⟩)
      fun cell leaf scratch => arranged.apart (spans.scratch scratch) leaf
  have calls : ∀ key, Leaves Spared (visit key) := fun key s =>
    (visits key s).mono (fun _ h => h.1) fun _ => id
  refine Shows.leaves ?_ calls (course.mono works)
  exact fun _ _ _ => frame_spares.trans

/-- What holds after the enumeration of a store holds of all tokens that the visitor spares. -/
theorem idle_course
    (spared : Spares root words bound (fun token => tokens token ∧ ¬ Tokens s token) (Leaf root) w
      stop.1)
    (within : stop.1.drawn ≤ bound) (settled : Settled root words w) (idle : Idle root tokens w)
    (own : Idle root (Tokens s) stop.1) : Idle root tokens stop.1 := by
  intro token member
  by_cases mine : Tokens s token
  · exact own mine
  · exact spared.noted within settled ⟨member, mine⟩ (idle member)

theorem holds_spared {w' : World} (spans : Spans root s)
    (spared : Spares root words bound tokens (Leaf root) w w') (key : Bytes) :
    (of s).Holds w' key ↔ (of s).Holds w key :=
  holds_congr (fun _ leaf => spared.entries (spans.leaf leaf)) key

theorem showsAll_memory (arranged : Arranged root) {cell : Ref .memory}
    (spans : Spans root (.memory cell)) : ShowsAll root words bound (.memory cell) := by
  intro τ visit w t visits
  have follows : Follows (Works root words bound (.memory cell)) (memoryCourse cell)
      (Storage.memory cell) := follows_memory frame_spares.refl cell
  have course := (follows.quiet w).shows visit t
  have spared := spares_course arranged spans (fun _ => spans.tokens) visits course
  have reports := reports_memory cell visit w t
  exact ⟨_, _, _, course, follows.run visit w t, reports.unfailing, fun within settled _ =>
    ⟨spared.settled within settled, nofun, reports⟩⟩

/-- Stores below the root, enumerated one after the other, of which the given tokens are. -/
structure Enumerated (root : Store) (words : Nat → UInt64) (bound : Nat)
    (tokens : Ref .token → Prop) (between : World → World → Prop) (stores : List Store) :
    Prop where
  spans : ∀ s ∈ stores, Spans root s
  rooted : ∀ token, tokens token → Tokens root token
  among : ∀ s ∈ stores, ∀ token, Tokens s token → tokens token
  lift : ∀ s ∈ stores, ∀ w w', Works root words bound s w w' → between w w'
  each : ∀ s ∈ stores, ShowsAll root words bound s

section Several

variable {stores rest : List Store} {between : World → World → Prop}

theorem Enumerated.tail (h : Enumerated root words bound tokens between (s :: rest)) :
    Enumerated root words bound tokens between rest where
  spans s' member := h.spans s' (List.mem_cons_of_mem _ member)
  rooted := h.rooted
  among s' member := h.among s' (List.mem_cons_of_mem _ member)
  lift s' member := h.lift s' (List.mem_cons_of_mem _ member)
  each s' member := h.each s' (List.mem_cons_of_mem _ member)

/-- What enumerating the first of the stores leaves for the others. -/
theorem Enumerated.head (h : Enumerated root words bound tokens between (s :: rest))
    (arranged : Arranged root)
    (visits : ∀ key, Leaves (Spares root words bound tokens (Leaf root)) (visit key)) (w : World)
    (t : τ) :
    ∃ keys ending stop, Shows (Works root words bound s) visit (w, t) keys ending stop ∧
      (s.keys visit).run (w, t) = ending.result stop ∧
      (ending = .finished (.ok ()) ∨ ∃ e, ending = .stopped e) ∧ w.drawn ≤ stop.1.drawn ∧
      (∀ s' ∈ rest, ∀ key, (of s').Holds stop.1 key ↔ (of s').Holds w key) ∧
      (stop.1.drawn ≤ bound → Settled root words w → Idle root tokens w →
        Settled root words stop.1 ∧ Idle root tokens stop.1 ∧
          Reports ((of s).Holds w) keys ending) := by
  have among := h.among s List.mem_cons_self
  obtain ⟨keys, ending, stop, course, run, ends, first⟩ :=
    h.each s List.mem_cons_self visit w t fun key state => (visits key state).mono among fun _ => id
  have spared := spares_course arranged (h.spans s List.mem_cons_self) h.rooted visits course
  refine ⟨keys, ending, stop, course, run, ends, spared.drawn, ?_, ?_⟩
  · exact fun s' member => holds_spared (h.tail.spans s' member) spared
  · intro within settled idle
    obtain ⟨settled', own, reports⟩ :=
      first within settled fun token mine => idle (among token mine)
    exact ⟨settled', idle_course spared within settled idle own, reports⟩

/-- Stores enumerated one after the other show together what they hold. -/
theorem forM_shows_all (h : Enumerated root words bound tokens between stores)
    (arranged : Arranged root) (frame : Frame between)
    (visits : ∀ key, Leaves (Spares root words bound tokens (Leaf root)) (visit key)) :
    ∃ keys ending stop, Shows between visit (w, t) keys ending stop ∧
      (stores.forM fun s => s.keys visit).run (w, t) = ending.result stop ∧
      (ending = .finished (.ok ()) ∨ ∃ e, ending = .stopped e) ∧ w.drawn ≤ stop.1.drawn ∧
      (stop.1.drawn ≤ bound → Settled root words w → Idle root tokens w →
        Settled root words stop.1 ∧ Idle root tokens stop.1 ∧
          Reports (fun key => ∃ s ∈ stores, (of s).Holds w key) keys ending) := by
  induction stores generalizing w t with
  | nil =>
    exact ⟨[], .finished (.ok ()), (w, t), .finish _ (frame.refl w), rfl, .inl rfl, Nat.le_refl _,
      fun _ settled idle => ⟨settled, idle, .inl rfl, nofun, by simp⟩⟩
  | cons s rest ih =>
    obtain ⟨keys, ending, ⟨w₁, t₁⟩, course, run, ends, drawn, kept, first⟩ :=
      h.head arranged visits w t
    have course := course.mono (h.lift s List.mem_cons_self)
    simp only [List.forM, EStateM.run_bind, run]
    obtain rfl | ⟨e, rfl⟩ := ends
    · obtain ⟨later, ending, stop, course', run', ends', grown, others⟩ :=
        ih (w := w₁) (t := t₁) h.tail
      refine ⟨keys ++ later, ending, stop, course.append (fun _ _ _ => frame.trans) course', run',
        ends', Nat.le_trans drawn grown, ?_⟩
      intro within settled idle
      obtain ⟨settled₁, idle₁, reports⟩ := first (Nat.le_trans grown within) settled idle
      obtain ⟨settled', idle', reports'⟩ := others within settled₁ idle₁
      exact ⟨settled', idle', (reports.append reports').congr (holds_cons_iff kept)⟩
    · refine ⟨keys, .stopped e, (w₁, t₁), course, rfl, .inr ⟨e, rfl⟩, drawn, ?_⟩
      intro within settled idle
      obtain ⟨settled₁, idle₁, reports⟩ := first within settled idle
      exact ⟨settled₁, idle₁, (reports.stopped _).congr (holds_cons_iff kept)⟩

/-- What the copies of a redundant store hold is shown, but for keys that were shown before. -/
theorem sweep_shows_all (h : Enumerated root words bound tokens between stores)
    (arranged : Arranged root) {token : Ref .token} {offload : Store} {exact : Prop}
    (own : Tokens root token) (wired : offload.Wired)
    (scratch : ∀ cell, Leaf offload cell → Scratch root cell) (other : ¬ tokens token)
    (foreign : exact → ∀ s ∈ stores, ∀ cell, Leaf offload cell → ¬ Scratch s cell)
    (frame : Frame between)
    (marks : ∀ key w w', (offload.put key (w.marker token)).run w = .ok () w' → between w w')
    (once : ∀ key, Leaves (Spares root words bound tokens (Leaf root))
      (Storage.visitOnce offload.storage (.offloaded token) visit key))
    (visits : ∀ key, Leaves (Undisturbed root offload token exact words bound) (visit key))
    (start : Nat) :
    ∃ stopped keys fresh stop,
      (Storage.sweep offload.storage (.offloaded token) visit
        (((storages stores).zipIdx start).map fun (back, index) =>
          (s!"keys of storage {index}", back))).run (w, t) = .ok ⟨stopped, []⟩ stop ∧
      Shows between visit (w, t) fresh (.closing (.ok ()) stopped) stop ∧
      Forwards root offload token exact words bound keys fresh w stop.1 ∧
      (stop.1.drawn ≤ bound → Settled root words w → Idle root tokens w →
        Idle root tokens stop.1 ∧ Reports (fun key => ∃ s ∈ stores, (of s).Holds w key) keys
          (.closing (.ok ()) stopped)) := by
  induction stores generalizing w t start with
  | nil =>
    exact ⟨none, [], [], (w, t), rfl, .finish _ (frame.refl w),
      forwards_nothing (frame_spares.refl w), fun _ _ idle => ⟨idle, .inl rfl, nofun, by simp⟩⟩
  | cons s rest ih =>
    obtain ⟨keys, ending, ⟨w₁, t₁, flag⟩, course, run, ends, drawn, kept, first⟩ :=
      h.head arranged once w (t, false)
    have quiet : ∀ w w', Works root words bound s w w' →
        Undisturbed root offload token exact words bound w w' := by
      intro w w' works
      refine works.mono ?_ fun cell both => foreign both.1 s List.mem_cons_self cell both.2
      rintro _ rfl
      exact ⟨own, fun own' => other (h.among s List.mem_cons_self _ own')⟩
    obtain ⟨fresh, shows', flagged, forwards⟩ := shows_once own wired scratch quiet frame
      (h.lift s List.mem_cons_self) marks visits course
    simp only [storages, List.zipIdx_cons, List.map_cons, Storage.sweep, EStateM.run_bind,
      VisitM.run_withState]
    have run : (s.storage.keys (Storage.visitOnce offload.storage (.offloaded token) visit)).run
        (w, t, false) = ending.result (w₁, t₁, flag) := run
    rw [run]
    obtain rfl | ⟨e, rfl⟩ := ends
    · obtain ⟨stopped, keys', later, stop, run', course', forwards', others⟩ :=
        ih (w := w₁) (t := t₁) h.tail
          (fun unerased s member => foreign unerased s (List.mem_cons_of_mem _ member)) (start + 1)
      refine ⟨stopped, keys ++ keys', fresh ++ later, stop, run',
        shows'.append (fun _ _ _ => frame.trans) course', forwards.append forwards', ?_⟩
      intro within settled idle
      obtain ⟨settled₁, idle₁, reports⟩ := first (Nat.le_trans forwards'.drawn within) settled idle
      obtain ⟨idle', reports'⟩ := others within settled₁ idle₁
      exact ⟨idle', (reports.append reports').congr (holds_cons_iff kept)⟩
    · obtain rfl : flag = true := flagged
      refine ⟨some e, keys, fresh, (w₁, t₁), rfl, shows', forwards, ?_⟩
      intro within settled idle
      obtain ⟨-, idle₁, reports⟩ := first within settled idle
      exact ⟨idle₁, (reports.stopped _).congr (holds_cons_iff kept)⟩

end Several

theorem Works.below {s' : Store} (spans : Spans s s') {w w' : World}
    (h : Works root words bound s' w w') : Works root words bound s w w' :=
  Spares.mono h (fun _ foreign => ⟨foreign.1, fun own => foreign.2 (spans.tokens own)⟩)
    fun _ other scratch => other (spans.scratch scratch)

theorem showsAll_sharded (arranged : Arranged root) {pool : ShardPool} {stock : List Store}
    (spans : Spans root (.sharded pool stock)) (ready : pool.opening = .ready)
    (count : pool.count = stock.length) (each : ∀ s ∈ stock, ShowsAll root words bound s) :
    ShowsAll root words bound (.sharded pool stock) := by
  intro τ visit w t visits
  have shard : ∀ s ∈ stock, Spans (.sharded pool stock) s := fun s member =>
    .sharded member (.refl s)
  have shards : Enumerated root words bound (Tokens (.sharded pool stock))
      (Works root words bound (.sharded pool stock)) stock :=
    ⟨fun s member => spans.trans (shard s member), fun _ => spans.tokens,
      fun s member _ => (shard s member).tokens, fun s member _ _ => Works.below (shard s member),
      each⟩
  obtain ⟨keys, ending, stop, course, run, ends, -, all⟩ :=
    forM_shows_all (w := w) (t := t) shards arranged frame_spares visits
  refine ⟨keys, ending, stop, course, (run_iterate ready count visit w t).trans run, ends, ?_⟩
  intro within settled idle
  obtain ⟨settled', idle', reports⟩ := all within settled idle
  exact ⟨settled', idle', reports.congr holds_sharded_iff⟩

/-! ### Redundant stores -/

section Redundant

variable {policy : ReplicaPolicy} {backs : List Store} {token : Ref .token} {offload : Store}

/-- How the enumeration of a redundant store ends after its copies were swept. -/
theorem run_keys_of_sweep {stopped : Option Error} {w₁ w₂ : World} {t₁ : τ}
    (swept : (Storage.sweep offload.storage (.offloaded token) visit
      (((storages backs).zipIdx 0).map fun (back, index) =>
        (s!"keys of storage {index}", back))).run (w, t) = .ok ⟨stopped, []⟩ (w₁, t₁))
    (cleared : (DedupScheme.clear offload.storage (.offloaded token)).run w₁ = .ok () w₂) :
    ((Store.redundant policy backs (.offloaded token) offload).keys visit).run (w, t) =
      (Ending.closing (.ok ()) stopped).result (w₂.rotate token, t₁) := by
  have gathered : (gatherFailures [("clear iteration dedup",
      DedupScheme.clear offload.storage (.offloaded token))]).run w₁ = .ok [] w₂ := by
    simp only [gatherFailures, EStateM.run_bind, run_attempt, cleared, EStateM.run_pure]
  have named : numbered "keys of storage" (storages backs) =
      (storages backs).zipIdx.map fun (back, index) => (s!"keys of storage {index}", back) := rfl
  simp only [Store.keys, storage, Storage.redundant, named, EStateM.run_bind]
  rw [swept]
  simp only [StoreM.run_visiting, gathered, run_reset, List.append_nil]
  cases stopped with
  | none => rfl
  | some e => rfl

/-- What is spared and keeps the entries of a dedup store leaves its marks undisturbed. -/
theorem Spares.undisturbed {cells : Ref .memory → Prop} {exact : Prop} {w' : World}
    (h : Spares root words bound tokens cells w w') (own : tokens token)
    (kept : exact → ∀ cell, Leaf offload cell → SameEntries cell w w') :
    Undisturbed root offload token exact words bound w w' where
  drawn := h.drawn
  entries both := kept both.1 _ both.2
  current := by
    rintro _ rfl
    exact h.current own
  settled := h.settled
  noted := by
    rintro within settled _ shown rfl
    exact h.noted within settled own

/-- The copies, enumerated by the redundant store. -/
theorem enumerated_copies
    (spans : Spans root (.redundant policy backs (.offloaded token) offload))
    (each : ∀ s ∈ backs, ShowsAll root words bound s) :
    Enumerated root words bound (fun token => ∃ b ∈ backs, Tokens b token)
      (Works root words bound (.redundant policy backs (.offloaded token) offload)) backs := by
  have copy : ∀ b ∈ backs, Spans (.redundant policy backs (.offloaded token) offload) b :=
    fun b member => .redundant member (.refl b)
  refine ⟨fun b member => spans.trans (copy b member), ?_, fun b member _ own => ⟨b, member, own⟩,
    fun b member _ _ => Works.below (copy b member), each⟩
  intro token below
  obtain ⟨b, member, own⟩ := below
  exact (spans.trans (copy b member)).tokens own

/-- Enumerating a redundant store shows what its leaves hold. No key is shown twice if neither the
    stores below nor the visitor touch the store in which it remembers keys. -/
theorem shows_redundant (arranged : Arranged root)
    (distinct : ∀ i j, i < j → j < bound → words i ≠ words j)
    (spans : Spans root (.redundant policy backs (.offloaded token) offload))
    (each : ∀ s ∈ backs, ShowsAll root words bound s) {exact : Prop}
    (foreign : exact → ∀ s ∈ backs, ∀ cell, Leaf offload cell → ¬ Scratch s cell)
    (visits : ∀ key, Leaves (Spares root words bound
      (Tokens (.redundant policy backs (.offloaded token) offload)) (Leaf root)) (visit key))
    (undisturbed : exact → ∀ key cell, Leaf offload cell → Leaves (SameEntries cell) (visit key))
    (w : World) (t : τ) :
    let s := Store.redundant policy backs (.offloaded token) offload
    ∃ keys ending stop, Shows (Works root words bound s) visit (w, t) keys ending stop ∧
      (s.keys visit).run (w, t) = ending.result stop ∧
      (ending = .finished (.ok ()) ∨ ∃ e, ending = .stopped e) ∧
      (stop.1.drawn ≤ bound → Settled root words w → Idle root (Tokens s) w →
        Settled root words stop.1 ∧ Idle root (Tokens s) stop.1 ∧
          Reports ((of s).Holds w) keys ending ∧ (exact → keys.Nodup)) := by
  intro s
  have copies := enumerated_copies spans each
  have own : Tokens root token := spans.tokens .own
  have wired : offload.Wired := (arranged.served spans).2
  have scratch : ∀ cell, Leaf offload cell → Scratch root cell := fun cell leaf =>
    ⟨token, offload, ⟨policy, backs, spans⟩, leaf⟩
  let below (token : Ref .token) : Prop := ∃ b ∈ backs, Tokens b token
  have mine : ∀ token', below token' → Tokens s token' := fun _ ⟨b, member, own⟩ => .copy member own
  have other : ¬ below token := fun ⟨b, member, own⟩ => arranged.own spans b member own
  have others : ∀ token', below token' → token' ≠ token := fun token' h same => other (same ▸ h)
  have apart : ∀ cell, Leaf root cell → ¬ Leaf offload cell := fun cell leaf marks =>
    arranged.apart (scratch cell marks) leaf
  -- What is not the store's own is spared by whatever it does to its dedup store.
  have outside : ∀ token', Tokens root token' ∧ ¬ Tokens s token' → token' ≠ token :=
    fun token' h same => h.2 (same ▸ .own)
  have unmarked : ∀ cell, ¬ Scratch s cell → ¬ Leaf offload cell := fun cell h leaf =>
    h ⟨token, offload, .own, leaf⟩
  have bears : Bears (Spares root words bound below (Leaf root)) token offload :=
    bears_spares distinct own wired
      (fun token' h => ⟨copies.rooted token' h, others token' h⟩) apart
  have once := leaves_visitOnce_offload frame_spares wired bears fun key state =>
    (visits key state).mono mine fun _ => id
  have watched : ∀ key, Leaves (Undisturbed root offload token exact words bound) (visit key) :=
    fun key state => (visits key state).undisturbed .own fun unerased cell leaf =>
      undisturbed unerased key cell leaf state
  have marks : ∀ key w w', (offload.put key (w.marker token)).run w = .ok () w' →
      Works root words bound s w w' := fun key _ _ saved =>
    spares_save own wired (fun token' h => ⟨h.1, outside token' h⟩) unmarked saved
  obtain ⟨stopped, keys, fresh, ⟨w₁, t₁⟩, swept, course, forwards, all⟩ :=
    sweep_shows_all (w := w) (t := t) copies arranged own wired scratch other foreign frame_spares
      marks once watched 0
  obtain ⟨w₂, cleared⟩ := run_clear_any wired token w₁
  have closes : ∀ {tokens : Ref .token → Prop} {cells : Ref .memory → Prop},
      (∀ token', tokens token' → token' ≠ token) → (∀ cell, cells cell → ¬ Leaf offload cell) →
        Spares root words bound tokens cells w₁ w₂ ∧
          Spares root words bound tokens cells w₂ (w₂.rotate token) := by
    intro tokens cells others apart
    rw [← stateAfter_ok cleared]
    exact ⟨spares_clear wired apart w₁, spares_rotate distinct own others _⟩
  refine ⟨fresh, .closing (.ok ()) stopped, (w₂.rotate token, t₁), ?_,
    run_keys_of_sweep swept cleared, Ending.closing_unfailing stopped, ?_⟩
  · obtain ⟨clears, resets⟩ := closes outside unmarked
    refine course.extend ?_ (frame_spares.trans clears resets)
    exact fun _ _ _ => frame_spares.trans
  · intro within settled idle
    obtain ⟨clears, resets⟩ := closes others apart
    have drawn : w₂.drawn < bound := within
    have early : w₂.drawn ≤ bound := Nat.le_of_lt drawn
    have swept_early := Nat.le_trans clears.drawn early
    obtain ⟨settled₁, delivered⟩ := forwards.delivers swept_early settled (idle .own)
    obtain ⟨idle₁, reports⟩ := all swept_early settled fun _ h => idle (mine _ h)
    have settled₂ := clears.settled early settled₁
    refine ⟨resets.settled within settled₂, ?_,
      (delivered.reports reports).congr holds_redundant_iff,
      fun unerased => (delivered.once unerased nofun).2.1⟩
    intro token' mine'
    change Tokens (.redundant policy backs (.offloaded token) offload) token' at mine'
    cases mine' with
    | own => exact noted_rotate distinct own settled₂ drawn
    | copy member own' =>
      have below' : below token' := ⟨_, member, own'⟩
      exact resets.noted within settled₂ below' (clears.noted early settled₁ below' (idle₁ below'))

end Redundant

/-- Enumerations below the root show what the leaves hold, whatever dedup stores are shared. -/
theorem shows_all (arranged : Arranged root)
    (distinct : ∀ i j, i < j → j < bound → words i ≠ words j) (wired : Wired s)
    (spans : Spans root s) : ShowsAll root words bound s := by
  induction wired with
  | memory cell => exact showsAll_memory arranged spans
  | @sharded pool stock ready count some below ih =>
    exact showsAll_sharded arranged spans ready count fun s member =>
      ih s member (spans.trans (.sharded member (.refl s)))
  | @redundant demand backs dedup offload some few below ih =>
    obtain ⟨⟨token, rfl⟩, -⟩ := arranged.served spans
    intro τ visit w t visits
    have each : ∀ b ∈ backs, ShowsAll root words bound b := fun b member =>
      ih b member (spans.trans (.redundant member (.refl b)))
    obtain ⟨keys, ending, stop, course, run, ends, all⟩ :=
      shows_redundant arranged distinct spans each (fun h : False => h.elim) visits
        (fun h : False => h.elim) w t
    exact ⟨keys, ending, stop, course, run, ends, fun within settled idle =>
      ⟨(all within settled idle).1, (all within settled idle).2.1, (all within settled idle).2.2.1⟩⟩

end Enumerations

end StoreGraph
