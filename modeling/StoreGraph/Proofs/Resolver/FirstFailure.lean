import StoreGraph.Proofs.Resolver.Faults
import StoreGraph.Proofs.Resolver.Stock

/-! # The failure that is reported

A walk goes down the references of the records that it reads, and whatever it has built on its way
is fine (`Progress`). So when it ends in a failure, this is the first one that it has met, and every
reference that it had followed has added one context to it (`Reports`). One rule for each way of
composing building actions (`Building.Ends`) carries this from the record at fault up to the entry
(`node_walks`, `first_failure_reported`).
-/

namespace StoreGraph

/-- From a state, the building action ends in an answer that satisfies `Q` or in a failure that
    satisfies `E`. -/
def Building.Ends {σ α : Type} (x : Building σ α) (built : Built) (s : σ)
    (Q : α → Built → σ → Prop) (E : Error → σ → Prop) : Prop :=
  match (x.run built).run s with
  | .ok (a, built') s' => Q a built' s'
  | .error e s' => E e s'

namespace Building.Ends

section Rules

variable {σ α β : Type} {x : Building σ α} {f : α → Building σ β} {built : Built} {s : σ}
  {P Q : α → Built → σ → Prop} {R : β → Built → σ → Prop} {E F : Error → σ → Prop}

theorem mono (h : Ends x built s P E) (answer : ∀ a built' s', P a built' s' → Q a built' s')
    (failure : ∀ e s', E e s' → F e s') : Ends x built s Q F := by
  unfold Ends at h ⊢
  cases ran : (x.run built).run s with
  | ok result s' =>
    rw [ran] at h
    exact answer _ _ _ h
  | error e s' =>
    rw [ran] at h
    exact failure _ _ h

theorem pure {a : α} (h : Q a built s) : Ends (Pure.pure a : Building σ α) built s Q E := h

theorem throw {e : Error} (h : E e s) : Ends (MonadExcept.throw e : Building σ α) built s Q E := h

theorem bind (first : Ends x built s P E)
    (next : ∀ a built' s', P a built' s' → Ends (f a) built' s' R E) :
    Ends (x >>= f) built s R E := by
  unfold Ends at first ⊢
  cases ran : (x.run built).run s with
  | ok result s' =>
    rw [ran] at first
    rw [run_bind_of_ok ran]
    exact next _ _ _ first
  | error e s' =>
    rw [ran] at first
    rw [run_bind_of_error ran]
    exact first

theorem inContext {doing : String} (h : Ends x built s Q fun e s' => E (.context doing e) s') :
    Ends (Tools.inContext doing x) built s Q E := by
  unfold Ends at h ⊢
  rw [run_inContext]
  cases ran : (x.run built).run s with
  | ok result s' =>
    rw [ran] at h
    exact h
  | error e s' =>
    rw [ran] at h
    exact h

theorem lift {x : EStateM Error σ α} (h : match x.run s with
    | .ok a s' => Q a built s'
    | .error e s' => E e s') : Ends (liftM x) built s Q E := by
  unfold Ends
  rw [run_liftM]
  cases ran : x.run s with
  | ok a s' =>
    rw [ran] at h
    exact h
  | error e s' =>
    rw [ran] at h
    exact h

end Rules

variable {α : Type} {r : Resolver} {bootstrap : Store} {built : Built} {w : World}
  {log : List Request} {Q : α → Built → World × List Request → Prop}
  {E : Error → World × List Request → Prop}

/-- An action on the world, with which nothing is asked for. -/
theorem act {x : StoreM α} (h : match x.run w with
    | .ok a w' => Q a built (w', log)
    | .error e w' => E e (w', log)) :
    Ends (liftM ((Tools.noting r bootstrap).act x)) built (w, log) Q E := by
  have visits : (Tools.noting r bootstrap).act x = StoreM.visiting x := rfl
  refine .lift ?_
  rw [visits, StoreM.run_visiting]
  cases ran : x.run w with
  | ok a w' =>
    rw [ran] at h
    exact h
  | error e w' =>
    rw [ran] at h
    exact h

theorem ask {x : StoreM α} {request : Except Error α → Request} (h : match x.run w with
    | .ok a w' => Q a built (w', log ++ [request (.ok a)])
    | .error e w' => E e (w', log ++ [request (.error e)])) :
    Ends (liftM (Tools.noted x request)) built (w, log) Q E := by
  refine .lift ?_
  rw [Tools.run_noted]
  cases ran : x.run w with
  | ok a w' =>
    rw [ran] at h
    exact h
  | error e w' =>
    rw [ran] at h
    exact h

end Building.Ends

namespace Resolver

open Request World

/-- The failure `e` of resolving an identifier, while others wait for it, has one context for each
    reference on a path and those of the record at its end. Nothing else that was asked for has
    failed. -/
structure Reports (r : Resolver) (log : List Request) (waiting : List Bytes) (id : Bytes)
    (e : Error) (path : List Reference) (own : List String) (cause : Error) : Prop where
  fails : r.FailsAt log waiting id path own cause
  text : e = cause.within (path.map Reference.doing ++ own)
  sole : ∀ request ∈ log, ∀ e', request.failure? = some e' → e' = cause

/-- What holds while stores are built. -/
structure Progress (r : Resolver) (keep : World → Prop) (built : Built)
    (s : World × List Request) : Prop where
  kept : keep s.1
  fine : ∀ {id store}, built.get? id = some store → r.Fine s.2 id
  clean : ∀ request ∈ s.2, request.failure? = none

section Walk

variable {r : Resolver} {bootstrap : Store} {known waiting : List Bytes} {keep : World → Prop}
  {built : Built} {s : World × List Request} {w w' : World} {log : List Request} {id : Bytes}
  {node : Bytes → Building (World × List Request) Store} {e cause : Error}
  {path : List Reference} {own : List String} {record : Record}

theorem Reports.here (fault : r.Fault log waiting id own cause)
    (sole : ∀ request ∈ log, ∀ e', request.failure? = some e' → e' = cause) :
    r.Reports log waiting id (cause.within own) [] own cause := ⟨.here fault, rfl, sole⟩

theorem Reports.further {before after : List Reference} {ref : Reference} (idle : id ∉ waiting)
    (learned : r.Learned log id record) (order : record.follows = before ++ ref :: after)
    (fine : ∀ ref' ∈ before, r.Fine log ref'.id)
    (reports : r.Reports log (id :: waiting) ref.id e path own cause) :
    r.Reports log waiting id (.context ref.doing e) (ref :: path) own cause where
  fails := .further idle learned order fine reports.fails
  text := congrArg (Error.context ref.doing) reports.text
  sole := reports.sole

namespace Progress

theorem sole (progress : Progress r keep built s) :
    ∀ request ∈ s.2, ∀ e', request.failure? = some e' → e' = cause := by
  intro request asked e' failed
  rw [progress.clean request asked] at failed
  cases failed

theorem world (progress : Progress r keep built (w, log)) (kept : keep w') :
    Progress r keep built (w', log) := ⟨kept, progress.fine, progress.clean⟩

/-- Something was asked for, and it did not fail. -/
theorem asked {request : Request} (progress : Progress r keep built (w, log)) (kept : keep w')
    (good : request.failure? = none) : Progress r keep built (w', log ++ [request]) where
  kept := kept
  fine found := (progress.fine found).mono (List.subset_append_left _ _)
  clean := by
    intro request' member
    obtain before | last := List.mem_append.mp member
    · exact progress.clean request' before
    · rwa [List.mem_singleton.mp last]

/-- Something was asked for, and only this failed. -/
theorem sole_failed {request : Request} (progress : Progress r keep built (w, log))
    (failed : request.failure? = some cause) :
    ∀ request' ∈ log ++ [request], ∀ e', request'.failure? = some e' → e' = cause := by
  intro request' member e' failed'
  obtain before | last := List.mem_append.mp member
  · exact progress.sole request' before e' failed'
  · rw [List.mem_singleton.mp last, failed] at failed'
    exact (Option.some.inj failed').symm

theorem insert {store : Store} (progress : Progress r keep built s) (fine : r.Fine s.2 id) :
    Progress r keep (built.insert id store) s where
  kept := progress.kept
  fine {id' store'} found := by
    rw [SortedMap.get?_insert] at found
    split at found
    · rename_i same
      exact same ▸ fine
    · exact progress.fine found
  clean := progress.clean

end Progress

/-- The walk from `s` has ended in a failure to resolve an identifier, which is reported. -/
def Failed (r : Resolver) (waiting : List Bytes) (id : Bytes) (s : World × List Request) (e : Error)
    (s' : World × List Request) : Prop :=
  s.2 ⊆ s'.2 ∧ ∃ path own cause, r.Reports s'.2 waiting id e path own cause

/-- Either the store of an identifier is built or the failure is reported. -/
def Settles (r : Resolver) (keep : World → Prop) (waiting : List Bytes) (id : Bytes)
    (x : Building (World × List Request) Store) (built : Built) (s : World × List Request) : Prop :=
  Building.Ends x built s
    (fun _ built' s' => Progress r keep built' s' ∧ s.2 ⊆ s'.2 ∧ r.Fine s'.2 id)
    (r.Failed waiting id s)

/-- Whenever the walk has gone well so far, it settles an identifier. -/
def Walks (r : Resolver) (keep : World → Prop) (waiting : List Bytes) (id : Bytes)
    (x : Building (World × List Request) Store) : Prop :=
  ∀ built s, Progress r keep built s → r.Settles keep waiting id x built s

theorem Failed.after {s₁ s' : World × List Request} (failed : r.Failed waiting id s₁ e s')
    (more : s.2 ⊆ s₁.2) : r.Failed waiting id s e s' :=
  ⟨List.Subset.trans more failed.1, failed.2⟩

theorem Settles.since {x : Building (World × List Request) Store} {s₁ : World × List Request}
    (settles : r.Settles keep waiting id x built s₁) (more : s.2 ⊆ s₁.2) :
    Building.Ends x built s₁
      (fun _ built' s' => Progress r keep built' s' ∧ s.2 ⊆ s'.2 ∧ r.Fine s'.2 id)
      (r.Failed waiting id s) := by
  unfold Settles at settles
  refine settles.mono ?_ fun _ _ failed => failed.after more
  rintro _ built' s' ⟨progress, further, fine⟩
  exact ⟨progress, List.Subset.trans more further, fine⟩

/-- The numbers of a record do not fit, although its references are fine. -/
theorem failed_misfit (idle : id ∉ waiting) (progress : Progress r keep built s)
    (learned : r.Learned s.2 id record) (below : ∀ ref ∈ record.follows, r.Fine s.2 ref.id)
    (wrong : record.misfit? id.lossyText = some cause) : r.Failed waiting id s cause s :=
  ⟨List.Subset.refl _, _, _, _, .here (.misfit idle learned below wrong) progress.sole⟩

theorem run_newArray_cases (w : World) (hash : Bytes → UInt32) {shards : List Store}
    {names : List String} (length : shards.length = names.length) (name : String) :
    (∃ e, (Record.sharded names).misfit? name = some e ∧
      (Store.newArray hash shards).run w = .error e w) ∨
    (Record.sharded names).misfit? name = none ∧ (Store.newArray hash shards).run w =
      .ok (.sharded ⟨⟨w.pools.next⟩, hash, shards.length, .ready⟩ shards)
        (w.reporting (.arrayPoolCreating shards.length)).withPool := by
  by_cases none : names = []
  · subst none
    obtain rfl := List.length_eq_zero_iff.mp length
    exact .inl ⟨_, rfl, rfl⟩
  · have some : shards ≠ [] := by
      rwa [← List.length_pos_iff, length, List.length_pos_iff]
    by_cases many : UInt32.size ≤ names.length
    · refine .inl ⟨.configuration s!"too many shards: {names.length}", ?_, ?_⟩
      · simp only [Record.misfit?, none, many, if_false, if_true]
      · have nonempty : shards.isEmpty = false := by simpa using some
        simp only [Store.newArray, nonempty, length, many, Bool.false_eq_true, if_false, if_true]
        rfl
    · refine .inr ⟨by simp only [Record.misfit?, none, many, if_false], ?_⟩
      exact Store.run_newArray w some (by omega)

theorem writeDemand_misfit (name : String) (record : RedundantRecord) :
    (∃ e, (Record.redundant record).misfit? name = some e ∧
      writeDemand name record.storages.length record.writeAtLeast = .error e) ∨
    (Record.redundant record).misfit? name = none ∧
      ∃ demand, writeDemand name record.storages.length record.writeAtLeast = .ok demand ∧
        demand.needed ≤ record.storages.length := by
  simp only [Record.misfit?, writeDemand]
  cases record.writeAtLeast with
  | none =>
    simp only [Option.getD_none, Nat.lt_irrefl, if_false, Quorum.all, Quorum.ofNat]
    by_cases some : 0 < record.storages.length
    · exact .inr ⟨if_neg (by omega), ⟨_, some⟩, dif_pos some, Nat.le_refl _⟩
    · exact .inl ⟨_, if_pos (by omega), dif_neg some⟩
  | some num =>
    simp only [Option.getD_some, Quorum.ofNat]
    by_cases many : record.storages.length < num
    · exact .inl ⟨_, if_pos many, if_pos many⟩
    · simp only [many, if_false]
      by_cases positive : 0 < num
      · exact .inr ⟨if_neg (by omega), ⟨num, positive⟩, dif_pos positive, Nat.not_lt.mp many⟩
      · exact .inl ⟨_, if_pos (by omega), dif_neg positive⟩

section Stores

variable (calls : ∀ ref, Walks r keep (id :: waiting) ref (node ref)) (idle : id ∉ waiting)

include calls idle

/-- A reference is followed, after others that are fine. -/
theorem follow_ends {before after : List Reference} (ref : Reference)
    (progress : Progress r keep built s) (learned : r.Learned s.2 id record)
    (order : record.follows = before ++ ref :: after) (fine : ∀ ref' ∈ before, r.Fine s.2 ref'.id) :
    Building.Ends (Tools.inContext ref.doing (node ref.id)) built s
      (fun _ built' s' => Progress r keep built' s' ∧ s.2 ⊆ s'.2 ∧ r.Fine s'.2 ref.id)
      (r.Failed waiting id s) := by
  refine .inContext ((calls ref.id built s progress).mono (fun _ _ _ h => h) ?_)
  rintro e s' ⟨more, path, own, cause, reports⟩
  refine ⟨more, ref :: path, own, cause, reports.further idle (learned.mono more) order ?_⟩
  exact fun ref' listed => (fine ref' listed).mono more

/-- The references of one role are followed in order, after others that are fine. -/
theorem nodes_end {role : String} {names : List String} (before after : List Reference)
    (progress : Progress r keep built s) (learned : r.Learned s.2 id record)
    (order : record.follows = before ++ names.map (⟨role, ·⟩) ++ after)
    (fine : ∀ ref ∈ before, r.Fine s.2 ref.id) :
    Building.Ends (Tools.nodes node role names) built s
      (fun stores built' s' => Progress r keep built' s' ∧ s.2 ⊆ s'.2 ∧
        stores.length = names.length ∧
        ∀ ref ∈ before ++ names.map (⟨role, ·⟩), r.Fine s'.2 ref.id)
      (r.Failed waiting id s) := by
  unfold Tools.nodes
  induction names generalizing built s before with
  | nil => exact .pure ⟨progress, List.Subset.refl _, rfl, by simpa using fine⟩
  | cons name rest ih =>
    rw [List.mapM_cons]
    have order₁ : record.follows = before ++ ⟨role, name⟩ :: (rest.map (⟨role, ·⟩) ++ after) := by
      simpa using order
    refine .bind (follow_ends calls idle ⟨role, name⟩ progress learned order₁ fine) ?_
    rintro store built₁ s₁ ⟨progress₁, more₁, built_fine⟩
    have fine₁ : ∀ ref ∈ before ++ [⟨role, name⟩], r.Fine s₁.2 ref.id := by
      intro ref listed
      obtain listed | last := List.mem_append.mp listed
      · exact (fine ref listed).mono more₁
      · exact List.mem_singleton.mp last ▸ built_fine
    refine .bind ((ih _ progress₁ (learned.mono more₁) (by simpa using order) fine₁).mono
      (fun _ _ _ h => h) fun e s' failed => failed.after more₁) ?_
    rintro stores built₂ s₂ ⟨progress₂, more₂, length, fine₂⟩
    exact .pure ⟨progress₂, List.Subset.trans more₁ more₂, congrArg (· + 1) length,
      by simpa using fine₂⟩

theorem buildSharded_settles (stocked : r.Stocked bootstrap known keep) {names : List String}
    (progress : Progress r keep built s) (learned : r.Learned s.2 id (.sharded names)) :
    r.Settles keep waiting id ((Tools.noting r bootstrap).buildSharded r node names) built s := by
  refine .bind (nodes_end calls idle [] [] progress learned
    (by simp [Record.follows]) nofun) ?_
  rintro shards built' ⟨w', log'⟩ ⟨progress', more, length, fine⟩
  have learned' := learned.mono more
  have below : ∀ ref ∈ (Record.sharded names).follows, r.Fine log' ref.id := fine
  refine .act ?_
  obtain ⟨e, wrong, run⟩ | ⟨fits, run⟩ := run_newArray_cases w' r.hasher.hash length id.lossyText
  · rw [run]
    exact (failed_misfit idle progress' learned' below wrong).after more
  · rw [run]
    have kept := stocked.withPool
      (stocked.reporting (.arrayPoolCreating shards.length) progress'.kept)
    exact ⟨progress'.world kept, more, .mk learned' nofun below fits⟩

/-- The dedup store comes after the copies, if one is named. -/
theorem offload_ends (stocked : r.Stocked bootstrap known keep) {record : RedundantRecord}
    (progress : Progress r keep built s) (learned : r.Learned s.2 id (.redundant record))
    (copies : ∀ ref ∈ record.storages.map (Reference.mk "backed storage"), r.Fine s.2 ref.id) :
    Building.Ends ((Tools.noting r bootstrap).offload node record) built s
      (fun _ built' s' => Progress r keep built' s' ∧ s.2 ⊆ s'.2 ∧
        ∀ ref ∈ (Record.redundant record).follows, r.Fine s'.2 ref.id)
      (r.Failed waiting id s) := by
  obtain ⟨w, log⟩ := s
  unfold Tools.offload
  cases dedup : record.dedupRef? with
  | none =>
    have below : ∀ ref ∈ (Record.redundant record).follows, r.Fine log ref.id := by
      simpa [Record.follows, dedup] using copies
    refine .act ?_
    rw [Store.run_newMemory]
    exact ⟨progress.world (stocked.withMemory progress.kept), List.Subset.refl _, below⟩
  | some name =>
    have order : (Record.redundant record).follows =
        record.storages.map (⟨"backed storage", ·⟩) ++ ⟨"deduplication storage", name⟩ :: [] := by
      simp [Record.follows, dedup]
    refine (follow_ends calls idle ⟨"deduplication storage", name⟩ progress learned order
      copies).mono ?_ fun _ _ h => h
    rintro offload built' s' ⟨progress', more, fine⟩
    refine ⟨progress', more, fun ref listed => ?_⟩
    rw [order] at listed
    obtain listed | last := List.mem_append.mp listed
    · exact (copies ref listed).mono more
    · exact List.mem_singleton.mp last ▸ fine

theorem buildRedundant_settles (stocked : r.Stocked bootstrap known keep) {record : RedundantRecord}
    (progress : Progress r keep built s) (learned : r.Learned s.2 id (.redundant record)) :
    r.Settles keep waiting id
      ((Tools.noting r bootstrap).buildRedundant node id.lossyText record) built s := by
  refine .bind (nodes_end calls idle []
    (record.dedupRef?.map (⟨"deduplication storage", ·⟩)).toList progress learned rfl nofun) ?_
  rintro backs built₁ s₁ ⟨progress₁, more₁, length, copies⟩
  refine .bind ((offload_ends calls idle stocked progress₁ (learned.mono more₁) copies).mono
    (fun _ _ _ h => h) fun e s' failed => failed.after more₁) ?_
  rintro offload built₂ ⟨w₂, log₂⟩ ⟨progress₂, more₂, below⟩
  have more := List.Subset.trans more₁ more₂
  have learned₂ := learned.mono more
  rw [length]
  -- Whether the threshold can be met is found out last.
  obtain ⟨e, wrong, refused⟩ | ⟨fits, demand, accepted, few⟩ :=
    writeDemand_misfit id.lossyText record
  · refine .bind (P := fun _ _ _ => False) (.act ?_) nofun
    rw [refused]
    exact (failed_misfit idle progress₂ learned₂ below wrong).after more
  · have some : backs ≠ [] := by
      rw [← List.length_pos_iff, length]
      exact Nat.lt_of_lt_of_le demand.needed_pos few
    refine .bind (P := fun _ built' s' => built' = built₂ ∧ s' = (w₂, log₂)) (.act ?_) ?_
    · rw [accepted]
      exact ⟨rfl, rfl⟩
    rintro demand built₂ _ ⟨rfl, rfl⟩
    refine .bind (P := fun _ built' s' => built' = built₂ ∧ s' = (w₂.withToken, log₂)) (.act ?_) ?_
    · rw [Dedup.run_newOffloaded]
      exact ⟨rfl, rfl⟩
    rintro dedup built₂ _ ⟨rfl, rfl⟩
    refine .act ?_
    rw [Store.run_newRedundant _ some]
    have kept := stocked.reporting (.redundantCreating backs.length)
      (stocked.withToken progress₂.kept)
    exact ⟨progress₂.world kept, more, .mk learned₂ nofun below fits⟩

end Stores

theorem create_settles (stocked : r.Stocked bootstrap known keep) (idle : id ∉ waiting)
    {url : String} (progress : Progress r keep built s) (learned : r.Learned s.2 id (.simple url)) :
    r.Settles keep waiting id (Tools.inContext s!"create storage '{id.lossyText}'"
      (liftM ((Tools.noting r bootstrap).create id url))) built s := by
  obtain ⟨w, log⟩ := s
  refine .inContext (.ask ?_)
  cases run : (r.registry.create url).run w with
  | ok store w' =>
    have more : log ⊆ log ++ [.create id url (.ok store)] := List.subset_append_left _ _
    have created : ∀ url', Record.simple url = .simple url' →
        ∃ s, .create id url' (.ok s) ∈ log ++ [.create id url (.ok store)] := by
      rintro _ ⟨⟩
      exact ⟨store, by simp⟩
    exact ⟨progress.asked (stocked.created progress.kept run) rfl, more,
      .mk (learned.mono more) created nofun rfl⟩
  | error e w' =>
    have more : log ⊆ log ++ [.create id url (.error e)] := List.subset_append_left _ _
    exact ⟨more, _, _, _, .here (.create idle (learned.mono more) (by simp))
      (progress.sole_failed rfl)⟩

/-- The record of an identifier is read and decoded, and its store is built. -/
theorem build_walks (stocked : r.Stocked bootstrap known keep) (idle : id ∉ waiting)
    (calls : id ∈ known → ∀ ref, Walks r keep (id :: waiting) ref (node ref)) :
    Walks r keep waiting id ((Tools.noting r bootstrap).build r node id) := by
  rintro built ⟨w, log⟩ progress
  unfold Tools.build
  simp only [Building.liftM_withContext]
  refine .bind (P := fun raw built' s' => built' = built ∧ Progress r keep built s' ∧ log ⊆ s'.2 ∧
    .read id (.ok raw) ∈ s'.2 ∧ id ∈ known) (.inContext (.ask ?_)) ?_
  · cases run : (bootstrap.get id).run w with
    | ok raw w' =>
      obtain ⟨listed, kept⟩ := stocked.read progress.kept run
      exact ⟨rfl, progress.asked kept rfl, List.subset_append_left _ _, by simp, listed⟩
    | error e w' =>
      exact ⟨List.subset_append_left _ _, _, _, _, .here (.load idle (by simp))
        (progress.sole_failed rfl)⟩
  rintro raw built ⟨w₁, log₁⟩ ⟨rfl, progress₁, more, read, listed⟩
  refine .bind (P := fun record built' s' => built' = built ∧ s' = (w₁, log₁) ∧
    r.decode raw = .ok record) (.inContext (.act ?_)) ?_
  · cases decoded : r.decode raw with
    | ok record => exact ⟨rfl, rfl, rfl⟩
    | error e => exact ⟨more, _, _, _, .here (.decode idle read decoded) progress₁.sole⟩
  rintro record built _ ⟨rfl, rfl, decoded⟩
  have learned : r.Learned log₁ id record := ⟨raw, read, decoded⟩
  refine .bind (P := fun _ built' s' => built' = built ∧ Progress r keep built s' ∧ s'.2 = log₁)
    (.act ?_) ?_
  · exact ⟨rfl, progress₁.world (stocked.reporting _ progress₁.kept), rfl⟩
  rintro _ built ⟨w₂, log₁⟩ ⟨rfl, progress₂, rfl⟩
  suffices settles : r.Settles keep waiting id _ built (w₂, log₁) from settles.since more
  cases record with
  | simple url => exact create_settles stocked idle progress₂ learned
  | sharded names => exact buildSharded_settles (calls listed) idle stocked progress₂ learned
  | redundant record => exact buildRedundant_settles (calls listed) idle stocked progress₂ learned

/-- The bound on the depth is not reached: what waits was answered for by the bootstrap store. -/
theorem node_walks (stocked : r.Stocked bootstrap known keep) {fuel : Nat} {waiting : List Bytes}
    (distinct : waiting.Nodup) (answered : waiting ⊆ known)
    (enough : known.length < fuel + waiting.length) (id : Bytes) :
    Walks r keep waiting id ((Tools.noting r bootstrap).node r fuel waiting id) := by
  induction fuel generalizing waiting id with
  | zero =>
    have few := distinct.length_le_of_subset answered
    omega
  | succ fuel ih =>
    rintro built s progress
    unfold Tools.node Tools.unlessBuilt
    refine .bind (P := fun known built' s' => known = built ∧ built' = built ∧ s' = s)
      ⟨rfl, rfl, rfl⟩ ?_
    rintro _ built s ⟨rfl, rfl, rfl⟩
    cases found : built.get? id with
    | some store => exact .pure ⟨progress, List.Subset.refl _, progress.fine found⟩
    | none =>
      by_cases waits : id ∈ waiting
      · rw [List.contains_iff_mem.mpr waits]
        refine .bind (P := fun _ _ _ => False) (.throw ?_) fun _ _ _ none => none.elim
        exact ⟨List.Subset.refl _, _, _, _, .here (.cycle waits) progress.sole⟩
      · have contains : waiting.contains id = false := by simpa using waits
        rw [contains]
        refine .bind (build_walks stocked waits (fun listed ref => ih ?_ ?_ ?_ ref) built s
          progress) ?_
        · exact List.nodup_cons.mpr ⟨waits, distinct⟩
        · exact List.cons_subset.mpr ⟨listed, answered⟩
        · simp only [List.length_cons]
          omega
        rintro store built' s' ⟨progress', more, fine⟩
        refine .bind (P := fun _ built'' s'' => built'' = built'.insert id store ∧ s'' = s')
          ⟨rfl, rfl⟩ ?_
        rintro _ _ s' ⟨rfl, rfl⟩
        exact .pure ⟨progress'.insert fine, more, fine⟩

end Walk

theorem run_resolveNoting_singleton (r : Resolver) (bootstrap : Store) (entry : Bytes) (w : World) :
    (r.resolveNoting [entry] bootstrap).run w =
      match (((Tools.noting r bootstrap).node r (w.entryCount + 2) [] entry).run .empty).run
        (w, []) with
      | .ok (store, _) s => .ok (.ok [store], s.2) s.1
      | .error e s => .ok (.error e, s.2) s.1 := by
  have current : (getThe World : StoreM World).run w = .ok w w := rfl
  rw [resolveNoting, EStateM.run_bind, current]
  dsimp only
  rw [VisitM.run_observe, Tools.resolveAll, run_run', List.mapM_cons, List.mapM_nil,
    StateT.run_bind, EStateM.run_bind]
  cases (((Tools.noting r bootstrap).node r (w.entryCount + 2) [] entry).run .empty).run (w, []) <;>
    rfl

/-- Resolving that fails is resolving that fails with a log, in which nothing is asked for twice. -/
theorem exists_log {r : Resolver} {bootstrap : Store} {entry : Bytes} {w after : World} {e : Error}
    (failed : (r.resolve entry bootstrap).run w = .error e after) :
    ∃ log, (r.resolveNoting [entry] bootstrap).run w = .ok (.error e, log) after ∧
      NoRepeats log := by
  have walk := mapM_keeps id (node_keeps_accounts (w.entryCount + 2) [])
    (.start r bootstrap [entry] w) fun entry listed => .entry listed
  obtain ⟨outcome, log, start, noting, resolved, once⟩ := resolveNoting_of_logged walk
  rw [run_attempt, run_resolveAll_singleton, failed] at resolved
  cases resolved
  exact ⟨log, noting, once⟩

/-- A resolution that fails reports the first failure that it meets. A path of references leads down
    to the record at fault, with all that comes before it on the way fine, and the failure has one
    context for each of these references above those of that record (`Reports`). No other path and
    no other cause would do. What the failure is, its root cause is: not found if a record was
    missing, and a matter of configuration if the path has come back to itself. The bootstrap store
    has to answer for no more identifiers than there are entries, as every store over cells does
    (`stocked_of_recalls`). -/
theorem first_failure_reported {r : Resolver} {bootstrap : Store} {known : List Bytes}
    {keep : World → Prop} {entry : Bytes} {w after : World} {e : Error}
    (stocked : r.Stocked bootstrap known keep) (few : known.length ≤ w.entryCount) (kept : keep w)
    (failed : (r.resolve entry bootstrap).run w = .error e after) :
    ∃ log path own cause, (r.resolveNoting [entry] bootstrap).run w = .ok (.error e, log) after ∧
      r.Reports log [] entry e path own cause ∧
      (∀ {path' own' cause'}, r.FailsAt log [] entry path' own' cause' →
        path' = path ∧ own' = own ∧ cause' = cause) ∧
      e.root = cause.root ∧ e.isNotFound = e.root.isNotFound ∧
      e.isConfiguration = e.root.isConfiguration ∧
      (∀ id missing, .read id (.error missing) ∈ log → missing.isNotFound = true →
        e.isNotFound = true) ∧
      ∀ before last, path = before ++ [last] → last.id ∈ entry :: before.map Reference.id →
        cause = .cycleDetected last.id.lossyText ∧ e.isConfiguration = true := by
  obtain ⟨log, noting, once⟩ := exists_log failed
  have start : Progress r keep .empty (w, []) := ⟨kept, nofun, nofun⟩
  have enough : known.length < w.entryCount + 2 + ([] : List Bytes).length := by
    rw [List.length_nil]
    omega
  have walked : r.Settles keep [] entry _ .empty (w, []) :=
    node_walks stocked List.nodup_nil (List.nil_subset _) enough entry .empty (w, []) start
  unfold Settles Building.Ends at walked
  have run := run_resolveNoting_singleton r bootstrap entry w
  rw [noting] at run
  cases ended : (((Tools.noting r bootstrap).node r (w.entryCount + 2) [] entry).run .empty).run
    (w, []) with
  | ok result s' =>
    rw [ended] at run
    cases run
  | error e' s' =>
    rw [ended] at run walked
    cases run
    obtain ⟨-, path, own, cause, reports⟩ := walked
    have above : r.Above s'.2 [] entry := nofun
    have root : e.root = cause.root := by rw [reports.text, Error.root_within]
    refine ⟨s'.2, path, own, cause, noting, reports, ?_, root, e.isNotFound_root.symm,
      e.isConfiguration_root.symm, ?_, ?_⟩
    · intro path' own' cause' fails'
      exact fails'.unique once above reports.fails
    · intro id missing asked absent
      rw [← e.isNotFound_root, root, ← reports.sole _ asked missing rfl, missing.isNotFound_root]
      exact absent
    · rintro before last rfl back
      have cyclic := reports.fails.cycle (.inr back)
      refine ⟨cyclic, ?_⟩
      rw [← e.isConfiguration_root, root, cyclic]
      rfl

/-- A resolver for which the record `[]` is a memory backend, `[1]` is sharded over `good` and
    `lost`, and any other record has copies in `good` and `mid` and remembers keys in `main`. -/
def lostResolver : Resolver where
  registry := .withDefaults
  decoder
    | [] => .ok (Record.simple "memory://").toJson
    | [1] => .ok (Record.sharded ["good", "lost"]).toJson
    | _ => .ok (Record.redundant { storages := ["good", "mid"], dedup := some "main" }).toJson

/-- Two copies of the records, of which the first one is out of reach. -/
def lostStore : Store :=
  .redundant (.quorum .any) [.probe ⟨0⟩ {}, .memory ⟨0⟩] (.offloaded ⟨0⟩) .nop

def lostRecords : SortedMap Bytes Bytes :=
  ((SortedMap.empty.insert (Bytes.ofText "main") [2]).insert (Bytes.ofText "mid") [1]).insert
    (Bytes.ofText "good") []

def lostWorld : World where
  randomness _ := 0
  memories := { cells := SortedMap.empty.insert 0 { entries := lostRecords }, next := 1 }
  probes :=
    { cells := SortedMap.empty.insert 0 { rules := [{ op := .get, error := .backend "down" }] }
      next := 1 }

def lostRun : StoreM (Option (String × Bool)) := do
  match ← attempt (lostResolver.resolve (Bytes.ofText "main") lostStore) with
  | .ok _ => return none
  | .error e => return some (e.message, e.isNotFound)

theorem first_failure_reported_lost_shard :
    ∃ e after log path own cause,
      (lostResolver.resolve (Bytes.ofText "main") lostStore).run lostWorld = .error e after ∧
      e.message = "get backed storage 'mid': get shard 'lost': load record 'lost': key not found" ∧
      e.isNotFound = true ∧
      (lostResolver.resolveNoting [Bytes.ofText "main"] lostStore).run lostWorld =
        .ok (.error e, log) after ∧
      lostResolver.Reports log [] (Bytes.ofText "main") e path own cause ∧
      ∀ {path' own' cause'}, lostResolver.FailsAt log [] (Bytes.ofText "main") path' own' cause' →
        path' = path ∧ own' = own ∧ cause' = cause := by
  have cells : lostStore.InCells := by
    refine .redundant rfl ?_
    simp only [List.forall_mem_cons]
    exact ⟨.probe, .memory, nofun⟩
  have stocked : lostResolver.Stocked lostStore lostWorld.heldKeys lostWorld.Unfilled :=
    stocked_of_recalls cells.recalls (unfilled_create_withDefaults rfl) lostWorld
  obtain ⟨w, run⟩ := exists_run_of_run' (by decide +kernel : lostRun.run' lostWorld = some (some
    ("get backed storage 'mid': get shard 'lost': load record 'lost': key not found", true)))
  simp only [lostRun, EStateM.run_bind, run_attempt] at run
  cases failed : (lostResolver.resolve (Bytes.ofText "main") lostStore).run lostWorld with
  | ok s after =>
    rw [failed] at run
    cases run
  | error e after =>
    rw [failed] at run
    obtain ⟨⟨text, absent⟩, -⟩ : (e.message =
        "get backed storage 'mid': get shard 'lost': load record 'lost': key not found" ∧
        e.isNotFound = true) ∧ after = w := by simpa using run
    obtain ⟨log, path, own, cause, noting, reports, sole, -⟩ := first_failure_reported stocked
      (Nat.le_of_eq (length_heldKeys lostWorld)) (frame_unfilled.refl lostWorld) failed
    exact ⟨e, after, log, path, own, cause, rfl, text, absent, noting, reports, sole⟩

end Resolver

end StoreGraph
