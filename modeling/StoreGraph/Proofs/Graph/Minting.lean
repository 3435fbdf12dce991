import StoreGraph.Proofs.Graph.Shared
import StoreGraph.Proofs.Graph.Undisturbed

/-! # The tokens of a new graph

Every redundant store that a resolver builds draws a word for its token (`Minted`), and its dedup
store is empty. So a graph begins in the state from which its enumerations are known to show
everything (`arranged_of_built`, `settled_of_built`), if no word was drawn twice.
-/

namespace StoreGraph

open Store

theorem Store.Spans.sizeOf_le {s s' : Store} (spans : Spans s s') : sizeOf s' ≤ sizeOf s := by
  induction spans with
  | refl => exact Nat.le_refl _
  | sharded member _ ih =>
    have smaller := List.sizeOf_lt_of_mem member
    rw [Store.sharded.sizeOf_spec]
    omega
  | redundant member _ ih =>
    have smaller := List.sizeOf_lt_of_mem member
    rw [Store.redundant.sizeOf_spec]
    omega

/-- No store is one of its own copies, nor below one. -/
theorem Store.not_spans_of_copy {policy : ReplicaPolicy} {backs : List Store} {dedup : DedupScheme}
    {offload s : Store} (member : s ∈ backs) :
    ¬ Spans s (.redundant policy backs dedup offload) := by
  intro spans
  have smaller := List.sizeOf_lt_of_mem member
  have larger := spans.sizeOf_le
  rw [Store.redundant.sizeOf_spec] at larger
  omega

namespace Resolver

/-- The tokens of all that was built are words that were drawn, and no two of them are alike if no
    word was drawn twice. -/
structure Minted (words : Nat → UInt64) (built : Built) (w : World) : Prop where
  source : w.randomness = words
  taken : ∀ {id s token}, built.get? id = some s → TookToken s token → token.index < w.tokens.next
  drawn : ∀ {id s token}, built.get? id = some s → TookToken s token →
    ∃ i < w.drawn, w.tokens.get token = words i
  apart : (∀ i j, i < j → j < w.drawn → words i ≠ words j) → ∀ {id id' s s' token token'},
    built.get? id = some s → built.get? id' = some s' → TookToken s token → TookToken s' token' →
      w.tokens.get token = w.tokens.get token' → token = token'

section Building

variable {r : Resolver} {bootstrap : Store} {records : SortedMap Bytes Bytes}
  {keep : World → Prop} {entry id : Bytes} {built : Built} {words : Nat → UInt64} {w w' : World}
  {s : Store}

theorem Minted.empty (w : World) : Minted w.randomness .empty w := ⟨rfl, nofun, nofun, nofun⟩

theorem Minted.still (minted : Minted words built w) (same : SameEpochs w w') :
    Minted words built w' where
  source := same.randomness.trans minted.source
  taken found took := by
    rw [same.tokens]
    exact minted.taken found took
  drawn found took := by
    rw [same.tokens, same.drawn]
    exact minted.drawn found took
  apart distinct := by
    rw [same.drawn] at distinct
    rw [same.tokens]
    exact minted.apart distinct

theorem Minted.insert (minted : Minted words built w) (tokenless : ∀ token, ¬ TookToken s token) :
    Minted words (built.insert id s) w where
  source := minted.source
  taken found took := by
    obtain ⟨-, rfl⟩ | before := built_insert found
    · exact absurd took (tokenless _)
    · exact minted.taken before took
  drawn found took := by
    obtain ⟨-, rfl⟩ | before := built_insert found
    · exact absurd took (tokenless _)
    · exact minted.drawn before took
  apart distinct _ _ _ _ _ _ found found' took took' same := by
    obtain ⟨-, rfl⟩ | before := built_insert found
    · exact absurd took (tokenless _)
    · obtain ⟨-, rfl⟩ | before' := built_insert found'
      · exact absurd took' (tokenless _)
      · exact minted.apart distinct before before' took took' same

/-- A new redundant store takes a new token, which is the next word. -/
theorem Minted.insertToken (minted : Minted words built w)
    (new : ∀ token, TookToken s token → token = ⟨w.tokens.next⟩) :
    Minted words (built.insert id s) w.withToken := by
  have current : w.withToken.tokens.get ⟨w.tokens.next⟩ = words w.drawn := by
    rw [← minted.source]
    exact Table.get_alloc_self w.tokens _
  have elsewhere : ∀ {id s token}, built.get? id = some s → TookToken s token →
      w.withToken.tokens.get token = w.tokens.get token := fun found took =>
    Table.get_alloc_of_lt _ (minted.taken found took) _
  -- No earlier token is the next word, unless a word was drawn twice.
  have fresh : (∀ i j, i < j → j < w.withToken.drawn → words i ≠ words j) →
      ∀ {id s token}, built.get? id = some s → TookToken s token →
        w.tokens.get token ≠ words w.drawn := by
    intro distinct id s token found took
    obtain ⟨i, early, drawn⟩ := minted.drawn found took
    rw [drawn]
    exact distinct i w.drawn early (Nat.lt_succ_self _)
  refine ⟨minted.source, ?_, ?_, ?_⟩
  · intro id' s' token found took
    obtain ⟨-, rfl⟩ | before := built_insert found
    · rw [new token took]
      exact Nat.lt_succ_self _
    · exact Nat.lt_succ_of_lt (minted.taken before took)
  · intro id' s' token found took
    obtain ⟨-, rfl⟩ | before := built_insert found
    · rw [new token took]
      exact ⟨w.drawn, Nat.lt_succ_self _, current⟩
    · obtain ⟨i, early, drawn⟩ := minted.drawn before took
      exact ⟨i, Nat.lt_succ_of_lt early, (elsewhere before took).trans drawn⟩
  · intro distinct id₁ id₂ s₁ s₂ token₁ token₂ found₁ found₂ took₁ took₂ same
    obtain ⟨-, rfl⟩ | before₁ := built_insert found₁
    · obtain ⟨-, rfl⟩ | before₂ := built_insert found₂
      · rw [new token₁ took₁, new token₂ took₂]
      · rw [new token₁ took₁, current, elsewhere before₂ took₂] at same
        exact absurd same.symm (fresh distinct before₂ took₂)
    · obtain ⟨-, rfl⟩ | before₂ := built_insert found₂
      · rw [new token₂ took₂, current, elsewhere before₁ took₁] at same
        exact absurd same (fresh distinct before₁ took₁)
      · rw [elsewhere before₁ took₁, elsewhere before₂ took₂] at same
        exact minted.apart (fun i j less early => distinct i j less (Nat.lt_succ_of_lt early))
          before₁ before₂ took₁ took₂ same

theorem minted_constructs (backed : OverMemory r bootstrap records keep entry)
    (calm : ∀ id, Moves SameEpochs (bootstrap.get id)) :
    Constructs r bootstrap records entry fun built w => keep w ∧ Minted words built w where
  reads {built w id raw w'} both run := by
    obtain ⟨stored, kept, -⟩ := backed.reads both.1 run
    have same := calm id w
    rw [stateAfter_ok run] at same
    exact ⟨stored, kept, both.2.still same⟩
  reports event both := ⟨backed.reporting event both.1, both.2.still ⟨rfl, rfl, rfl⟩⟩
  makes {built w id s w'} path unbuilt both made := by
    obtain ⟨kept, minted⟩ := both
    cases made with
    | simple found run =>
      rw [backed.run_create path found] at run
      cases run
      have still : Minted words built (w.reporting (.backendCreating "memory")).withMemory :=
        minted.still ⟨rfl, rfl, rfl⟩
      exact ⟨backed.withMemory (backed.reporting _ kept), still.insert nofun⟩
    | sharded found below some =>
      have still : Minted words built w.withPool := minted.still ⟨rfl, rfl, rfl⟩
      exact ⟨backed.withPool kept, still.insert nofun⟩
    | unnamed found dedup below some few =>
      have still : Minted words built w.withMemory := minted.still ⟨rfl, rfl, rfl⟩
      refine ⟨backed.withToken (backed.withMemory kept), still.insertToken ?_⟩
      intro token took
      cases took with
      | redundant => rfl
    | named found dedup stored below some few =>
      refine ⟨backed.withToken kept, minted.insertToken ?_⟩
      intro token took
      cases took with
      | redundant => rfl

/-- What a resolver built, with all that is known of it and of its tokens. -/
theorem resolve_minted (backed : OverMemory r bootstrap records keep entry) (kept : keep w)
    (calm : ∀ id, Moves SameEpochs (bootstrap.get id)) {start : World}
    (resolved : (r.resolve entry bootstrap).run w = .ok s start) :
    ∃ built, r.Accords records built start ∧ Placed False (Among built) start ∧
      Minted w.randomness built start ∧ built.get? entry = some s := by
  have placed : Placed False (Among .empty) w :=
    (Placed.none w).mono (by rintro s ⟨id, found⟩; cases found)
  have lays : Constructs r bootstrap records entry (r.Laid records keep False) :=
    laid_constructs backed nofun
  have mints : Constructs r bootstrap records entry fun built w' =>
      keep w' ∧ Minted w.randomness built w' := minted_constructs backed calm
  obtain ⟨built, ⟨⟨⟨-, accords⟩, laid⟩, -, minted⟩, found⟩ := resolve_constructs
    (((accords_constructs backed).and lays).and mints)
    ⟨⟨⟨kept, .empty w⟩, kept, placed, nofun⟩, kept, .empty w⟩ resolved
  exact ⟨built, accords, laid.placed, minted, found⟩

end Building

section Graphs

variable {r : Resolver} {records : SortedMap Bytes Bytes} {entry : Bytes} {built : Built}
  {words : Nat → UInt64} {w : World} {s : Store}

theorem arranged_of_built (accords : r.Accords records built w)
    (placed : Placed False (Among built) w) (apart : r.DedupsApart records entry)
    (found : built.get? entry = some s) : Arranged s where
  served := served_of_built accords placed found
  apart := apart.scratch accords found
  own {policy backs token offload} spans b member tokens := by
    obtain ⟨offload', policy', backs', below⟩ := tokens_iff_remembers.mp tokens
    obtain ⟨id, -, outer⟩ := spans_described accords found spans
    obtain ⟨id', -, inner⟩ := spans_described accords outer (.redundant member below)
    obtain rfl := accords.tokens.sole outer inner .redundant .redundant
    rw [outer] at inner
    cases inner
    exact not_spans_of_copy member below

/-- Nothing is remembered in a new graph. -/
theorem scratch_blank (accords : r.Accords records built w) (found : built.get? entry = some s)
    {cell : Ref .memory} (scratch : Scratch s cell) : Blank cell w := by
  obtain ⟨token, offload, ⟨policy, backs, spans⟩, marks⟩ := scratch
  obtain ⟨id, -, found'⟩ := spans_described accords found spans
  cases accords.describes found' with
  | @redundant record policy backs token offload described below named unnamed =>
    cases dedup : record.dedupRef? with
    | none =>
      obtain ⟨cell', rfl⟩ := unnamed dedup
      cases marks with
      | memory => exact accords.blank found' (.unnamed described dedup)
    | some name =>
      obtain ⟨ref, url, -, -, stored⟩ := leaf_described accords (named name dedup) marks
      exact accords.blank stored .simple

theorem settled_of_built (accords : r.Accords records built w) (minted : Minted words built w)
    (found : built.get? entry = some s)
    (distinct : ∀ i j, i < j → j < w.drawn → words i ≠ words j) :
    Settled s words w ∧ Idle s (Tokens s) w := by
  have took : ∀ {token}, Tokens s token →
      ∃ id s', built.get? id = some s' ∧ TookToken s' token := by
    intro token tokens
    obtain ⟨offload, policy, backs, spans⟩ := tokens_iff_remembers.mp tokens
    obtain ⟨id, -, stored⟩ := spans_described accords found spans
    exact ⟨id, _, stored, .redundant⟩
  have unmarked : ∀ {cell}, Scratch s cell → ∀ key value,
      (w.entries cell).get? key ≠ some value := by
    intro cell scratch key value held
    rw [(scratch_blank accords found scratch).empty, SortedMap.get?_empty] at held
    cases held
  refine ⟨⟨minted.source, ?_, ?_, ?_⟩, ?_⟩
  · intro token tokens
    obtain ⟨id, s', stored, own⟩ := took tokens
    exact minted.drawn stored own
  · intro token token' tokens tokens' same
    obtain ⟨id, s₁, stored, own⟩ := took tokens
    obtain ⟨id', s₂, stored', own'⟩ := took tokens'
    exact minted.apart distinct stored stored' own own' same
  · exact fun scratch held => absurd held (unmarked scratch _ _)
  · exact fun token _ cell key scratch held => absurd held (unmarked scratch _ _)

end Graphs

end Resolver

end StoreGraph
