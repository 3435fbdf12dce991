import StoreGraph.Proofs.Resolver.Accounts

/-! # First failures

What a walk has asked for so far, and what came of it, decides how resolving an identifier ends. Its
references are followed in order, and each of them that is `Fine` gives a store; the first one that
is not ends the walk. `FailsAt` follows the references down to the identifier with which something
is wrong (`Fault`). There is one way to do so at most (`FailsAt.unique`), so that a failure has one
path and one cause.
-/

namespace StoreGraph

namespace Error

/-- A failure under several contexts, the outermost one first. -/
def within (cause : Error) (contexts : List String) : Error := contexts.foldr context cause

@[simp] theorem root_within (cause : Error) (contexts : List String) :
    (cause.within contexts).root = cause.root := by
  induction contexts with
  | nil => rfl
  | cons doing rest ih => exact ih

/-- No context changes whether something was not found. -/
theorem isNotFound_root (e : Error) : e.root.isNotFound = e.isNotFound := by
  fun_induction root with
  | case1 doing cause ih => exact ih
  | case2 e plain => rfl

theorem isConfiguration_root (e : Error) : e.root.isConfiguration = e.isConfiguration := by
  fun_induction root with
  | case1 doing cause ih => exact ih
  | case2 e plain => rfl

end Error

/-- What a record says of a store below its own: the role that it has, and whose it is. -/
structure Reference where
  role : String
  name : String
  deriving Repr, DecidableEq

namespace Reference

def id (ref : Reference) : Bytes := Bytes.ofText ref.name

/-- The context of a failure to follow the reference. -/
def doing (ref : Reference) : String := s!"get {ref.role} '{ref.name}'"

end Reference

namespace Record

/-- The references of a record, in the order in which they are followed. -/
def follows : Record → List Reference
  | simple _ => []
  | sharded ids => ids.map (⟨"shard", ·⟩)
  | redundant record =>
    record.storages.map (⟨"backed storage", ·⟩)
      ++ (record.dedupRef?.map (⟨"deduplication storage", ·⟩)).toList

/-- What is wrong with the numbers of a record, whatever becomes of its references. -/
def misfit? (name : String) : Record → Option Error
  | simple _ => none
  | sharded ids =>
    if ids = [] then some (.configuration "shard pool requires at least one shard")
    else if UInt32.size ≤ ids.length then some (.configuration s!"too many shards: {ids.length}")
    else none
  | redundant record =>
    let stores := record.storages.length
    let needed := record.writeAtLeast.getD stores
    if stores < needed then
      some (.configuration s!"'{name}' requires {needed} writes but has {stores} storages")
    else if needed = 0 then some (.configuration "write threshold must be at least 1")
    else none

end Record

namespace Request

variable {log : List Request} {id : Bytes}

/-- The failure of what was asked for, if it failed. -/
def failure? : Request → Option Error
  | read _ (.error e) | create _ _ (.error e) => some e
  | read _ (.ok _) | create _ _ (.ok _) => none

theorem eq_of_mem_filterMap {f : Request → Option Bytes} (distinct : (log.filterMap f).Nodup)
    {first second : Request} (listed : first ∈ log) (listed' : second ∈ log)
    (named : f first = some id) (named' : f second = some id) : first = second := by
  obtain ⟨before, after, rfl⟩ := List.append_of_mem listed
  rw [List.filterMap_append, List.filterMap_cons_some named, List.nodup_middle,
    ← List.filterMap_append] at distinct
  by_contra other
  have elsewhere : second ∈ before ++ after := by
    rw [List.mem_append, List.mem_cons, or_left_comm] at listed'
    exact List.mem_append.mpr (listed'.resolve_left (Ne.symm other))
  exact (List.nodup_cons.mp distinct).1 (List.mem_filterMap.mpr ⟨second, elsewhere, named'⟩)

theorem NoRepeats.read_unique (once : NoRepeats log) {outcome outcome' : Except Error Bytes}
    (asked : .read id outcome ∈ log) (asked' : .read id outcome' ∈ log) : outcome = outcome' := by
  cases eq_of_mem_filterMap once.1 asked asked' rfl rfl
  rfl

theorem NoRepeats.create_unique (once : NoRepeats log) {url url' : String}
    {outcome outcome' : Except Error Store} (asked : .create id url outcome ∈ log)
    (asked' : .create id url' outcome' ∈ log) : outcome = outcome' := by
  cases eq_of_mem_filterMap once.2 asked asked' rfl rfl
  rfl

end Request

namespace Resolver

open Request

variable {r : Resolver} {log log' : List Request} {waiting : List Bytes} {id id' : Bytes}
  {record record' : Record} {path path' : List Reference} {own own' : List String}
  {cause cause' : Error}

/-- All that building the store of an identifier takes was there: its record, the backend if it is a
    simple one, and the same for each of its references. -/
inductive Fine (r : Resolver) (log : List Request) : Bytes → Prop where
  | mk {id : Bytes} {record : Record} (learned : r.Learned log id record)
      (created : ∀ url, record = .simple url → ∃ s, .create id url (.ok s) ∈ log)
      (below : ∀ ref ∈ record.follows, Fine r log ref.id)
      (fits : record.misfit? id.lossyText = none) : Fine r log id

/-- What is wrong with an identifier itself, while others wait for it: the contexts that its record
    adds, and the cause. -/
inductive Fault (r : Resolver) (log : List Request) (waiting : List Bytes) (id : Bytes) :
    List String → Error → Prop where
  | cycle (waits : id ∈ waiting) : Fault r log waiting id [] (.cycleDetected id.lossyText)
  | load {cause : Error} (idle : id ∉ waiting) (failed : .read id (.error cause) ∈ log) :
      Fault r log waiting id [s!"load record '{id.lossyText}'"] cause
  | decode {raw : Bytes} {cause : Error} (idle : id ∉ waiting) (read : .read id (.ok raw) ∈ log)
      (refused : r.decode raw = .error cause) :
      Fault r log waiting id [s!"decode record '{id.lossyText}'"] cause
  | create {url : String} {cause : Error} (idle : id ∉ waiting)
      (learned : r.Learned log id (.simple url)) (failed : .create id url (.error cause) ∈ log) :
      Fault r log waiting id [s!"create storage '{id.lossyText}'"] cause
  | misfit {record : Record} {cause : Error} (idle : id ∉ waiting)
      (learned : r.Learned log id record) (below : ∀ ref ∈ record.follows, r.Fine log ref.id)
      (wrong : record.misfit? id.lossyText = some cause) : Fault r log waiting id [] cause

/-- Resolving an identifier, while others wait for it, fails at the end of a path of references. The
    references of a record that come before the one that is on the path are fine. -/
inductive FailsAt (r : Resolver) (log : List Request) :
    List Bytes → Bytes → List Reference → List String → Error → Prop where
  | here {waiting : List Bytes} {id : Bytes} {own : List String} {cause : Error}
      (fault : r.Fault log waiting id own cause) :
      FailsAt r log waiting id [] own cause
  | further {waiting : List Bytes} {id : Bytes} {record : Record} {before after : List Reference}
      {ref : Reference} {path : List Reference} {own : List String} {cause : Error}
      (idle : id ∉ waiting) (learned : r.Learned log id record)
      (order : record.follows = before ++ ref :: after)
      (fine : ∀ ref' ∈ before, r.Fine log ref'.id)
      (fails : FailsAt r log (id :: waiting) ref.id path own cause) :
      FailsAt r log waiting id (ref :: path) own cause

/-- The record of the first identifier, as it was read, refers to the second one. -/
def Follows (r : Resolver) (log : List Request) (id id' : Bytes) : Prop :=
  ∃ record, r.Learned log id record ∧ ∃ ref ∈ record.follows, ref.id = id'

/-- All that waits for an identifier is found above it. -/
def Above (r : Resolver) (log : List Request) (waiting : List Bytes) (id : Bytes) : Prop :=
  ∀ id' ∈ waiting, Relation.TransGen (r.Follows log) id' id

theorem Fine.mono (fine : r.Fine log id) (more : log ⊆ log') : r.Fine log' id := by
  induction fine with
  | mk learned created _ fits ih =>
    refine .mk (learned.mono more) (fun url simple => ?_) ih fits
    obtain ⟨s, asked⟩ := created url simple
    exact ⟨s, more asked⟩

theorem Above.further (above : r.Above log waiting id) (step : r.Follows log id id') :
    r.Above log (id :: waiting) id' := by
  intro waits member
  obtain rfl | member := List.mem_cons.mp member
  · exact .single step
  · exact (above waits member).tail step

/-- A path that comes back to an identifier on it ends with a cycle. -/
theorem FailsAt.cycle {before : List Reference} {last : Reference}
    (fails : r.FailsAt log waiting id (before ++ [last]) own cause)
    (back : last.id ∈ waiting ∨ last.id ∈ id :: before.map Reference.id) :
    cause = .cycleDetected last.id.lossyText := by
  induction before generalizing waiting id with
  | nil =>
    cases fails with
    | further _ _ _ _ ends =>
      have waits : last.id ∈ id :: waiting := by
        rw [List.mem_cons]
        exact back.symm.imp_left List.mem_singleton.mp
      cases ends with
      | here fault =>
        cases fault with
        | cycle => rfl
        | load idle | decode idle | create idle | misfit idle => exact absurd waits idle
  | cons ref before ih =>
    cases fails with
    | further _ _ _ _ ends =>
      refine ih ends ?_
      obtain waits | onPath := back
      · exact .inl (List.mem_cons_of_mem _ waits)
      · obtain start | later := List.mem_cons.mp onPath
        · exact .inl (List.mem_cons.mpr (.inl start))
        · exact .inr later

section Once

variable (once : NoRepeats log)

include once

/-- A record that was learned was read, and as nothing else. -/
theorem Learned.unfailed (learned : r.Learned log id record) : .read id (.error cause) ∉ log := by
  intro failed
  obtain ⟨raw, read, -⟩ := learned
  cases once.read_unique failed read

theorem Learned.decoded (learned : r.Learned log id record) {raw : Bytes}
    (read : .read id (.ok raw) ∈ log) : r.decode raw = .ok record := by
  obtain ⟨raw', read', decoded⟩ := learned
  cases once.read_unique read read'
  exact decoded

theorem Learned.same (learned : r.Learned log id record) (learned' : r.Learned log id record') :
    record = record' := by
  obtain ⟨raw, read, decoded⟩ := learned
  rw [learned'.decoded once read] at decoded
  exact (Except.ok.inj decoded).symm

namespace Fine

theorem follows (fine : r.Fine log id) (step : r.Follows log id id') : r.Fine log id' := by
  obtain ⟨record, learned, ref, listed, rfl⟩ := step
  cases fine with
  | mk learned' created below fits =>
    cases learned.same once learned'
    exact below ref listed

/-- Nothing that is fine is found below itself. -/
theorem acyclic (fine : r.Fine log id) : ¬ Relation.TransGen (r.Follows log) id id := by
  induction fine with
  | @mk id record learned created below fits ih =>
    intro cycle
    obtain ⟨next, step, back⟩ := Relation.TransGen.head'_iff.mp cycle
    obtain ⟨record', learned', ref, listed, rfl⟩ := step
    cases learned.same once learned'
    exact ih ref listed (Relation.TransGen.tail' back ⟨record, learned, ref, listed, rfl⟩)

theorem not_fault (fine : r.Fine log id) (fault : r.Fault log waiting id own cause) :
    id ∈ waiting := by
  cases fine with
  | mk learned created below fits =>
    cases fault with
    | cycle waits => exact waits
    | load _ failed => exact absurd failed (learned.unfailed once)
    | decode _ read refused =>
      rw [learned.decoded once read] at refused
      cases refused
    | create _ learned' failed =>
      cases learned.same once learned'
      obtain ⟨s, asked⟩ := created _ rfl
      cases once.create_unique failed asked
    | misfit _ learned' _ wrong =>
      cases learned.same once learned'
      rw [fits] at wrong
      cases wrong

end Fine

/-- What is fine does not fail. -/
theorem FailsAt.not_fine (fails : r.FailsAt log waiting id path own cause)
    (above : r.Above log waiting id) : ¬ r.Fine log id := by
  intro fine
  induction fails with
  | here fault => exact fine.acyclic once (above _ (fine.not_fault once fault))
  | @further waiting id record before after ref path own cause _ learned order _ _ ih =>
    have step : r.Follows log id ref.id := ⟨record, learned, ref, by simp [order], rfl⟩
    exact ih (above.further step) (fine.follows once step)

/-- What is wrong with an identifier itself shows in none of its references. -/
theorem Fault.not_further {ref : Reference} {path : List Reference}
    (fault : r.Fault log waiting id own cause) (above : r.Above log waiting id) :
    ¬ r.FailsAt log waiting id (ref :: path) own' cause' := by
  intro fails
  cases fails with
  | @further _ _ record before after _ _ _ _ idle learned order _ fails =>
    have listed : ref ∈ record.follows := by simp [order]
    cases fault with
    | cycle waits => exact idle waits
    | load _ failed => exact learned.unfailed once failed
    | decode _ read refused =>
      rw [learned.decoded once read] at refused
      cases refused
    | create _ learned' _ =>
      cases learned.same once learned'
      cases listed
    | misfit _ learned' fine _ =>
      cases learned.same once learned'
      exact fails.not_fine once (above.further ⟨record, learned, ref, listed, rfl⟩)
        (fine ref listed)

theorem Fault.unique (fault : r.Fault log waiting id own cause)
    (fault' : r.Fault log waiting id own' cause') : own = own' ∧ cause = cause' := by
  cases fault with
  | cycle waits =>
    cases fault' with
    | cycle => exact ⟨rfl, rfl⟩
    | load idle | decode idle | create idle | misfit idle => exact absurd waits idle
  | load idle failed =>
    cases fault' with
    | cycle waits => exact absurd waits idle
    | load _ failed' =>
      cases once.read_unique failed failed'
      exact ⟨rfl, rfl⟩
    | decode _ read => cases once.read_unique failed read
    | create _ learned | misfit _ learned => exact absurd failed (learned.unfailed once)
  | decode idle read refused =>
    cases fault' with
    | cycle waits => exact absurd waits idle
    | load _ failed => cases once.read_unique failed read
    | decode _ read' refused' =>
      cases once.read_unique read read'
      rw [refused] at refused'
      cases refused'
      exact ⟨rfl, rfl⟩
    | create _ learned | misfit _ learned =>
      rw [learned.decoded once read] at refused
      cases refused
  | create idle learned failed =>
    cases fault' with
    | cycle waits => exact absurd waits idle
    | load _ failed' => exact absurd failed' (learned.unfailed once)
    | decode _ read refused =>
      rw [learned.decoded once read] at refused
      cases refused
    | create _ _ failed' =>
      cases once.create_unique failed failed'
      exact ⟨rfl, rfl⟩
    | misfit _ learned' _ wrong =>
      cases learned.same once learned'
      cases wrong
  | misfit idle learned below wrong =>
    cases fault' with
    | cycle waits => exact absurd waits idle
    | load _ failed' => exact absurd failed' (learned.unfailed once)
    | decode _ read refused =>
      rw [learned.decoded once read] at refused
      cases refused
    | create _ learned' _ =>
      cases learned.same once learned'
      cases wrong
    | misfit _ learned' _ wrong' =>
      cases learned.same once learned'
      rw [wrong] at wrong'
      cases wrong'
      exact ⟨rfl, rfl⟩

/-- There is one path at most on which resolving an identifier fails. -/
theorem FailsAt.unique (fails : r.FailsAt log waiting id path own cause)
    (above : r.Above log waiting id) (fails' : r.FailsAt log waiting id path' own' cause') :
    path = path' ∧ own = own' ∧ cause = cause' := by
  induction fails generalizing path' own' cause' with
  | here fault =>
    cases path' with
    | nil =>
      cases fails' with
      | here fault' => exact ⟨rfl, fault.unique once fault'⟩
    | cons ref path' => exact absurd fails' (fault.not_further once above)
  | @further waiting id record before after ref path own cause idle learned order fine fails ih =>
    cases fails' with
    | here fault' =>
      exact absurd (.further idle learned order fine fails) (fault'.not_further once above)
    | @further _ _ record' before' after' ref' path' _ _ _ learned' order' fine' fails' =>
      cases learned.same once learned'
      have split : before ++ ref :: after = before' ++ ref' :: after' := order.symm.trans order'
      have reaches : r.Above log (id :: waiting) ref.id :=
        above.further ⟨record, learned, ref, by simp [order], rfl⟩
      have reaches' : r.Above log (id :: waiting) ref'.id :=
        above.further ⟨record, learned, ref', by simp [order'], rfl⟩
      -- The reference that comes first is not fine, so the other path has it too.
      obtain ⟨rest, rfl, seam⟩ | ⟨rest, rfl, seam⟩ := List.append_eq_append_iff.mp split
      · cases rest with
        | nil =>
          cases seam
          obtain ⟨rfl, same⟩ := ih reaches fails'
          exact ⟨rfl, same⟩
        | cons first rest =>
          cases seam
          exact absurd (fine' ref (by simp)) (fails.not_fine once reaches)
      · cases rest with
        | nil =>
          cases seam
          obtain ⟨rfl, same⟩ := ih reaches fails'
          exact ⟨rfl, same⟩
        | cons first rest =>
          cases seam
          exact absurd (fine ref' (by simp)) (fails'.not_fine once reaches')

end Once

end Resolver

end StoreGraph
