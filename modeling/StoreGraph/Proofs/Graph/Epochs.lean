import StoreGraph.Proofs.Graph.Scratch

/-! # Tokens that are never drawn twice

Redundant stores below one root may remember keys in the same cells. They are told apart by their
tokens: as long as no word was drawn twice, every mark in a scratch cell carries the token of one
store and of one of its enumerations (`Settled`). So what a store has marked is known (`Noted`), and
whatever else happens to scratch cells adds no mark of it (`Spares`): marks may get lost, but none
appears.
-/

namespace StoreGraph

/-- What a key is marked with. -/
def World.marker (w : World) (token : Ref .token) : Bytes := Word.toBytes (w.tokens.get token)

/-- Tokens are as before, and none was drawn. -/
structure SameEpochs (w w' : World) : Prop where
  tokens : w'.tokens = w.tokens
  drawn : w'.drawn = w.drawn
  randomness : w'.randomness = w.randomness

theorem frame_sameEpochs : Frame SameEpochs where
  refl _ := ⟨rfl, rfl, rfl⟩
  trans first second := ⟨second.tokens.trans first.tokens, second.drawn.trans first.drawn,
    second.randomness.trans first.randomness⟩

namespace Store

theorem Spans.trans {s₁ s₂ s₃ : Store} (first : Spans s₁ s₂) (second : Spans s₂ s₃) :
    Spans s₁ s₃ := by
  induction first with
  | refl s => exact second
  | sharded member _ ih => exact .sharded member (ih second)
  | redundant member _ ih => exact .redundant member (ih second)

theorem tokens_iff_remembers {s : Store} {token : Ref .token} :
    Tokens s token ↔ ∃ offload, Remembers s token offload := by
  constructor
  · intro tokens
    induction tokens with
    | sharded member _ ih =>
      obtain ⟨offload, remembers⟩ := ih
      exact ⟨offload, remembers.sharded member⟩
    | copy member _ ih =>
      obtain ⟨offload, remembers⟩ := ih
      exact ⟨offload, remembers.copy member⟩
    | own => exact ⟨_, .own⟩
  · intro remembers
    obtain ⟨offload, policy, backs, spans⟩ := remembers
    generalize reached : Store.redundant policy backs (.offloaded token) offload = s' at spans
    induction spans with
    | refl s =>
      subst reached
      exact .own
    | sharded member _ ih => exact .sharded member (ih reached)
    | redundant member _ ih => exact .copy member (ih reached)

section Spanned

variable {s s' : Store}

theorem Spans.tokens (spans : Spans s s') {token : Ref .token} (h : Tokens s' token) :
    Tokens s token := by
  obtain ⟨offload, policy, backs, below⟩ := tokens_iff_remembers.mp h
  exact tokens_iff_remembers.mpr ⟨offload, policy, backs, spans.trans below⟩

theorem Spans.scratch (spans : Spans s s') {cell : Ref .memory} (h : Scratch s' cell) :
    Scratch s cell := by
  obtain ⟨token, offload, ⟨policy, backs, below⟩, leaf⟩ := h
  exact ⟨token, offload, ⟨policy, backs, spans.trans below⟩, leaf⟩

theorem Spans.leaf (spans : Spans s s') {cell : Ref .memory} (h : Leaf s' cell) : Leaf s cell :=
  leaf_iff_spans.mpr (spans.trans (leaf_iff_spans.mp h))

end Spanned

/-! ## Writing without drawing -/

section Writes

variable {R : World → World → Prop} {s : Store} {key : Bytes}

theorem moves_routed {f : Storage → StoreM Unit} {pool : ShardPool}
    {stock : List Store} (ready : pool.opening = .ready) (owns : stock[pool.owner key]? = some s)
    (below : Moves R (f s.storage)) :
    Moves R (do
      let slot ← pool.slot (storages stock).length (pool.owner key)
      f (slot.choose (storages stock) Storage.memory Storage.nop)) := by
  intro w
  have moved := below w
  simp only [stateAfter, EStateM.run_bind, run_slot ready] at moved ⊢
  rw [choose_stocked owns]
  exact moved

/-- A put changes nothing but leaves, except that it may report and count. -/
theorem moves_put (frame : Frame R) (wired : s.Wired) {value : Bytes}
    (writes : ∀ cell, Leaf s cell → Moves R (Memory.update cell (·.put key value)))
    (reports : ∀ event, Moves R (StoreM.report event)) (counts : ∀ f, Moves R (StoreM.count f)) :
    Moves R (s.put key value) := by
  induction wired with
  | memory cell => exact writes cell .memory
  | @sharded pool stock ready count some below ih =>
    obtain ⟨s, owns, member⟩ := owner_spec count some key
    exact moves_routed (f := (·.put key value)) ready owns
      (ih s member fun cell leaf => writes cell (.sharded member leaf))
  | @redundant demand backs dedup offload some few below ih =>
    have copies : (storages backs).map (fun back => back.put key value) =
        backs.map (fun back => back.put key value) := map_storages _ backs
    simp only [put, storage, Storage.redundant, ReplicaPolicy.quorum, Quorum.write]
    rw [copies]
    refine .bind frame (.gatherFailures frame ?_) fun failures => ?_
    · intro action named
      obtain ⟨⟨write, index⟩, listed, rfl⟩ := List.mem_map.mp named
      obtain ⟨s, member, rfl⟩ := List.mem_map.mp (List.fst_mem_of_mem_zipIdx listed)
      exact ih s member fun cell leaf => writes cell (.redundant member leaf)
    · split
      · exact .throw frame _
      · split
        · exact .bind frame (reports _) fun _ => counts _
        · exact .pure frame _

theorem moves_del (frame : Frame R) (wired : s.Wired)
    (writes : ∀ cell, Leaf s cell → Moves R (Memory.update cell (·.del key))) :
    Moves R (s.del key) := by
  induction wired with
  | memory cell => exact writes cell .memory
  | @sharded pool stock ready count some below ih =>
    obtain ⟨s, owns, member⟩ := owner_spec count some key
    exact moves_routed (f := (·.del key)) ready owns
      (ih s member fun cell leaf => writes cell (.sharded member leaf))
  | @redundant demand backs dedup offload some few below ih =>
    have copies : (storages backs).map (fun back => back.del key) =
        backs.map (fun back => back.del key) := map_storages _ backs
    simp only [del, storage, Storage.redundant]
    rw [copies]
    refine .bind frame (.gatherFailures frame ?_) fun failures => .ofExcept frame _
    intro action named
    obtain ⟨⟨write, index⟩, listed, rfl⟩ := List.mem_map.mp named
    obtain ⟨s, member, rfl⟩ := List.mem_map.mp (List.fst_mem_of_mem_zipIdx listed)
    exact ih s member fun cell leaf => writes cell (.redundant member leaf)

theorem put_sameEpochs (wired : s.Wired) (key value : Bytes) : Moves SameEpochs (s.put key value) :=
  moves_put frame_sameEpochs wired (fun _ _ _ => ⟨rfl, rfl, rfl⟩) (fun _ _ => ⟨rfl, rfl, rfl⟩)
    fun _ _ => ⟨rfl, rfl, rfl⟩

theorem del_sameEpochs (wired : s.Wired) (key : Bytes) : Moves SameEpochs (s.del key) :=
  moves_del frame_sameEpochs wired fun _ _ _ => ⟨rfl, rfl, rfl⟩

end Writes

end Store

open Store

/-! ## Marks and what spares them -/

/-- Below the root, tokens are words that were drawn, no two alike, and scratch cells hold nothing
    but such words. -/
structure Settled (root : Store) (words : Nat → UInt64) (w : World) : Prop where
  source : w.randomness = words
  minted : ∀ {token}, Tokens root token → ∃ i < w.drawn, w.tokens.get token = words i
  apart : ∀ {token token'}, Tokens root token → Tokens root token' →
    w.tokens.get token = w.tokens.get token' → token = token'
  marked : ∀ {cell key value}, Scratch root cell → (w.entries cell).get? key = some value →
    ∃ i < w.drawn, value = Word.toBytes (words i)

/-- Only the keys in the list may be marked with the current token. -/
def Noted (root : Store) (token : Ref .token) (shown : List Bytes) (w : World) : Prop :=
  ∀ ⦃cell key⦄, Scratch root cell → (w.entries cell).get? key = some (w.marker token) → key ∈ shown

/-- The given cells hold what they held, the given tokens are as before, and no key was marked with
    one of them. -/
structure Spares (root : Store) (words : Nat → UInt64) (bound : Nat) (tokens : Ref .token → Prop)
    (cells : Ref .memory → Prop) (w w' : World) : Prop where
  drawn : w.drawn ≤ w'.drawn
  entries : ∀ {cell}, cells cell → SameEntries cell w w'
  current : ∀ {token}, tokens token → w'.tokens.get token = w.tokens.get token
  settled : w'.drawn ≤ bound → Settled root words w → Settled root words w'
  noted : w'.drawn ≤ bound → Settled root words w → ∀ {token shown}, tokens token →
    Noted root token shown w → Noted root token shown w'

section Spares

variable {root : Store} {words : Nat → UInt64} {bound : Nat} {tokens tokens' : Ref .token → Prop}
  {cells cells' : Ref .memory → Prop} {token : Ref .token} {offload : Store} {key : Bytes}
  {w w' : World} {shown : List Bytes}

theorem frame_spares : Frame (Spares root words bound tokens cells) where
  refl _ := ⟨Nat.le_refl _, fun _ => rfl, fun _ => rfl, fun _ h => h, fun _ _ _ _ _ h => h⟩
  trans {w₁ w₂ w₃} first second := by
    have early : w₃.drawn ≤ bound → w₂.drawn ≤ bound := Nat.le_trans second.drawn
    refine ⟨Nat.le_trans first.drawn second.drawn, ?_, ?_, ?_, ?_⟩
    · exact fun member => (second.entries member).trans (first.entries member)
    · exact fun member => (second.current member).trans (first.current member)
    · exact fun within settled => second.settled within (first.settled (early within) settled)
    · intro within settled token shown member noted
      exact second.noted within (first.settled (early within) settled) member
        (first.noted (early within) settled member noted)

theorem Spares.mono (h : Spares root words bound tokens cells w w')
    (fewer : ∀ token, tokens' token → tokens token) (less : ∀ cell, cells' cell → cells cell) :
    Spares root words bound tokens' cells' w w' where
  drawn := h.drawn
  entries member := h.entries (less _ member)
  current member := h.current (fewer _ member)
  settled := h.settled
  noted within settled _ _ member := h.noted within settled (fewer _ member)

theorem Noted.mono {shown' : List Bytes} (h : Noted root token shown w)
    (more : ∀ key ∈ shown, key ∈ shown') : Noted root token shown' w :=
  fun _ _ scratch held => more _ (h scratch held)

theorem marker_injective {token' : Ref .token} (settled : Settled root words w)
    (own : Tokens root token) (own' : Tokens root token')
    (same : w.marker token = w.marker token') : token = token' :=
  settled.apart own own' (Word.toBytes_injective same)

/-- Tokens and scratch cells are spared by what leaves them alone. -/
theorem spares_of_same (drawn : w.drawn ≤ w'.drawn) (source : w'.randomness = w.randomness)
    (current : ∀ token, Tokens root token → w'.tokens.get token = w.tokens.get token)
    (scratch : ∀ cell, Scratch root cell → SameEntries cell w w')
    (rooted : ∀ token, tokens token → Tokens root token)
    (entries : ∀ cell, cells cell → SameEntries cell w w') :
    Spares root words bound tokens cells w w' where
  drawn := drawn
  entries member := entries _ member
  current member := current _ (rooted _ member)
  settled _ settled := by
    refine ⟨source.trans settled.source, ?_, ?_, ?_⟩
    · intro token own
      obtain ⟨i, early, minted⟩ := settled.minted own
      exact ⟨i, Nat.lt_of_lt_of_le early drawn, (current token own).trans minted⟩
    · intro token token' own own' same
      rw [current token own, current token' own'] at same
      exact settled.apart own own' same
    · intro cell key value marks held
      rw [scratch cell marks] at held
      obtain ⟨i, early, minted⟩ := settled.marked marks held
      exact ⟨i, Nat.lt_of_lt_of_le early drawn, minted⟩
  noted _ _ token shown member noted cell key marks held := by
    rw [scratch cell marks, World.marker, current token (rooted token member)] at held
    exact noted marks held

/-- Marking a key spares all other tokens. -/
theorem spares_save (own : Tokens root token) (wired : offload.Wired)
    (others : ∀ token', tokens token' → Tokens root token' ∧ token' ≠ token)
    (apart : ∀ cell, cells cell → ¬ Leaf offload cell)
    (saved : (offload.put key (w.marker token)).run w = .ok () w') :
    Spares root words bound tokens cells w w' := by
  have epochs := (put_sameEpochs wired key (w.marker token)).of_ok saved
  obtain ⟨w₁, run, wrote⟩ := writes_put wired key (w.marker token) w
  rw [saved] at run
  cases run
  have held_cases : ∀ {cell key' value}, (w'.entries cell).get? key' = some value →
      value = w.marker token ∨ (w.entries cell).get? key' = some value := by
    intro cell key' value held
    by_cases here : LeafFor key offload cell ∧ key' = key
    · rw [here.2, wrote.written cell here.1] at held
      exact .inl (Option.some.inj held).symm
    · rw [wrote.kept cell key' here] at held
      exact .inr held
  refine ⟨Nat.le_of_eq epochs.drawn.symm, ?_, ?_, ?_, ?_⟩
  · intro cell member
    apply SortedMap.ext_get?
    exact fun key' => wrote.kept cell key' fun here => apart cell member here.1.leaf
  · intro token' _
    rw [epochs.tokens]
  · intro _ settled
    refine ⟨epochs.randomness.trans settled.source, ?_, ?_, ?_⟩
    · intro token' own'
      rw [epochs.tokens, epochs.drawn]
      exact settled.minted own'
    · intro token₁ token₂ own₁ own₂ same
      rw [epochs.tokens] at same
      exact settled.apart own₁ own₂ same
    · intro cell key' value marks held
      rw [epochs.drawn]
      obtain rfl | before := held_cases held
      · obtain ⟨i, early, drawn⟩ := settled.minted own
        exact ⟨i, early, congrArg Word.toBytes drawn⟩
      · exact settled.marked marks before
  · intro _ settled token' shown member noted cell key' marks held
    obtain ⟨own', other⟩ := others token' member
    rw [World.marker, epochs.tokens] at held
    obtain same | before := held_cases held
    · exact absurd (marker_injective settled own' own same) other
    · exact noted marks before

/-- Clearing a dedup store spares all tokens. -/
theorem spares_clear (wired : offload.Wired) (apart : ∀ cell, cells cell → ¬ Leaf offload cell)
    (w : World) : Spares root words bound tokens cells w
      (stateAfter (DedupScheme.clear offload.storage (.offloaded token)) w) := by
  cases wired with
  | sharded => exact frame_spares.refl w
  | redundant => exact frame_spares.refl w
  | memory cell =>
    have fewer : ∀ {cell' key value},
        ((w.changeMemory cell (·.clear)).entries cell').get? key = some value →
          (w.entries cell').get? key = some value := by
      intro cell' key value held
      rw [World.entries_clear] at held
      split at held
      · rw [SortedMap.get?_empty] at held
        cases held
      · exact held
    refine ⟨Nat.le_refl _, ?_, fun _ => rfl, ?_, ?_⟩
    · intro cell' member
      have other : cell' ≠ cell := by
        rintro rfl
        exact apart cell' member .memory
      exact (World.entries_clear w cell cell').trans (if_neg other)
    · intro _ settled
      exact ⟨settled.source, settled.minted, settled.apart,
        fun marks held => settled.marked marks (fewer held)⟩
    · exact fun _ _ _ _ _ noted _ _ marks held => noted marks (fewer held)

section Draws

variable (distinct : ∀ i j, i < j → j < bound → words i ≠ words j) (own : Tokens root token)

include distinct own

/-- The next token is the next word: it differs from the one before. -/
theorem rotate_drawn (settled : Settled root words w) (within : w.drawn < bound) :
    (w.rotate token).tokens.get token = words w.drawn := by
  obtain ⟨i, early, drawn⟩ := settled.minted own
  have fresh : words w.drawn ≠ w.tokens.get token := by
    rw [drawn]
    exact (distinct i w.drawn early within).symm
  simp only [World.rotate, settled.source, if_neg fresh, Table.get_set_self]

/-- Beginning a new epoch spares all other tokens. -/
theorem spares_rotate (others : ∀ token', tokens token' → token' ≠ token) (w : World) :
    Spares root words bound tokens cells w (w.rotate token) := by
  have elsewhere : ∀ {token'}, token' ≠ token →
      (w.rotate token).tokens.get token' = w.tokens.get token' := fun other =>
    Table.get_set_of_ne _ other _
  refine ⟨Nat.le_succ _, fun _ => rfl, fun member => elsewhere (others _ member), ?_, ?_⟩
  · intro within settled
    have current := rotate_drawn distinct own settled within
    -- The word that was drawn is none that was drawn before.
    have new : ∀ {token'}, Tokens root token' → w.tokens.get token' ≠ words w.drawn := by
      intro token' own'
      obtain ⟨i, early, drawn⟩ := settled.minted own'
      rw [drawn]
      exact distinct i w.drawn early within
    refine ⟨settled.source, ?_, ?_, ?_⟩
    · intro token' own'
      by_cases same : token' = token
      · exact ⟨w.drawn, Nat.lt_succ_self _, same ▸ current⟩
      · obtain ⟨i, early, drawn⟩ := settled.minted own'
        exact ⟨i, Nat.lt_succ_of_lt early, (elsewhere same).trans drawn⟩
    · intro token₁ token₂ own₁ own₂ same
      by_cases first : token₁ = token
      · by_cases second : token₂ = token
        · rw [first, second]
        · rw [first, current, elsewhere second] at same
          exact absurd same.symm (new own₂)
      · by_cases second : token₂ = token
        · rw [second, current, elsewhere first] at same
          exact absurd same (new own₁)
        · rw [elsewhere first, elsewhere second] at same
          exact settled.apart own₁ own₂ same
    · intro cell key value marks held
      obtain ⟨i, early, drawn⟩ := settled.marked marks held
      exact ⟨i, Nat.lt_succ_of_lt early, drawn⟩
  · intro _ _ token' shown member noted cell key marks held
    rw [World.marker, elsewhere (others _ member)] at held
    exact noted marks held

/-- In a new epoch nothing is marked. -/
theorem noted_rotate (settled : Settled root words w) (within : w.drawn < bound) :
    Noted root token [] (w.rotate token) := by
  intro cell key marks held
  obtain ⟨i, early, drawn⟩ := settled.marked marks held
  rw [World.marker, rotate_drawn distinct own settled within] at drawn
  exact absurd (Word.toBytes_injective drawn).symm (distinct i w.drawn early within)

/-- Using a dedup store spares the tokens of all others. -/
theorem bears_spares (wired : offload.Wired)
    (others : ∀ token', tokens token' → Tokens root token' ∧ token' ≠ token)
    (apart : ∀ cell, cells cell → ¬ Leaf offload cell) :
    Bears (Spares root words bound tokens cells) token offload where
  saves key w := by
    obtain ⟨w', run, -⟩ := writes_put wired key (w.marker token) w
    have saved : stateAfter (DedupScheme.save offload.storage key (.offloaded token)) w = w' :=
      stateAfter_ok run
    rw [saved]
    exact spares_save own wired others apart run
  clears w := spares_clear wired apart w
  resets w := spares_rotate distinct own (fun token' member => (others token' member).2) w

end Draws

end Spares

end StoreGraph
