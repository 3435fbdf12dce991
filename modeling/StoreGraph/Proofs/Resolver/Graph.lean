import Mathlib.Algebra.Group.Nat.Defs
import Mathlib.Logic.Relation
import StoreGraph.Resolver

/-! # Described graphs

The records of a bootstrap store, read as a graph: an identifier refers to those that its record
names. `Buildable` is what building needs, stated along the graph; it holds of an identifier exactly
if everything that the identifier reaches is described soundly and nothing of it reaches itself.
-/

namespace StoreGraph

namespace Error

/-- What a failure is under its contexts. -/
def root : Error → Error
  | context _ cause => root cause
  | e => e

@[simp] theorem root_context (doing : String) (cause : Error) :
    (context doing cause).root = cause.root := rfl

/-- Does the failure report a cycle, under any contexts? -/
def IsCycle (e : Error) : Prop := ∃ name, e.root = .cycleDetected name

theorem not_isCycle_configuration (detail : String) : ¬ (configuration detail).IsCycle := by
  intro cycle
  obtain ⟨name, report⟩ := cycle
  cases report

theorem root_of_isNotFound {e : Error} (h : e.isNotFound = true) : e.root = .notFound := by
  fun_induction root with
  | case1 doing cause ih => exact ih h
  | case2 e plain =>
    cases e with
    | notFound => rfl
    | context doing cause => exact absurd rfl (plain doing cause)
    | _ => cases h

end Error

/-- The identifier of the dedup store, if one is named. -/
def RedundantRecord.dedupRef? (record : RedundantRecord) : Option String :=
  record.dedup.filter (· ≠ "")

namespace Record

/-- The identifiers that a record refers to, in the order in which they are visited. -/
def references : Record → List Bytes
  | simple _ => []
  | sharded ids => ids.map Bytes.ofText
  | redundant record =>
    record.storages.map Bytes.ofText ++ (record.dedupRef?.map Bytes.ofText).toList

/-- Can a store be built from the record once those that it refers to are built? -/
def Sound (creatable : String → Prop) : Record → Prop
  | simple url => creatable url
  | sharded ids => 1 ≤ ids.length ∧ ids.length ≤ 2 ^ 32 - 1
  | redundant record =>
    1 ≤ record.storages.length ∧
      ∀ num, record.writeAtLeast = some num → 1 ≤ num ∧ num ≤ record.storages.length

end Record

namespace Resolver

variable (r : Resolver) (records : SortedMap Bytes Bytes)

/-- The record of an identifier, if there is one that can be decoded. -/
def described (id : Bytes) : Option Record :=
  match records.get? id with
  | some raw => (r.decode raw).toOption
  | none => none

/-- The record of the first identifier names the second one. -/
def Refers (id id' : Bytes) : Prop :=
  ∃ record, r.described records id = some record ∧ id' ∈ record.references

def Reaches : Bytes → Bytes → Prop := Relation.ReflTransGen (r.Refers records)

/-- Does the identifier reach itself, in one step or more? -/
def Cyclic (id : Bytes) : Prop := Relation.TransGen (r.Refers records) id id

def SoundAt (creatable : String → Prop) (id : Bytes) : Prop :=
  ∃ record, r.described records id = some record ∧ record.Sound creatable

/-- The identifier has a sound record, and so have all identifiers below it. A derivation is finite,
    so nothing below it refers back. -/
inductive Buildable (creatable : String → Prop) : Bytes → Prop where
  | mk {id record} (found : r.described records id = some record) (sound : record.Sound creatable)
      (below : ∀ ref ∈ record.references, Buildable creatable ref) : Buildable creatable id

variable {r records} {creatable : String → Prop} {id id' : Bytes}

theorem SoundAt.sound (h : r.SoundAt records creatable id) {record : Record}
    (found : r.described records id = some record) : record.Sound creatable := by
  obtain ⟨record', found', sound⟩ := h
  rw [found] at found'
  cases found'
  exact sound

theorem not_soundAt (undescribed : r.described records id = none) :
    ¬ r.SoundAt records creatable id := by
  intro h
  obtain ⟨record, found, -⟩ := h
  rw [undescribed] at found
  cases found

namespace Buildable

theorem soundAt (h : r.Buildable records creatable id) : r.SoundAt records creatable id := by
  cases h with
  | mk found sound below => exact ⟨_, found, sound⟩

theorem refers (h : r.Buildable records creatable id) (step : r.Refers records id id') :
    r.Buildable records creatable id' := by
  obtain ⟨record, found, member⟩ := step
  cases h with
  | mk found' sound below =>
    rw [found] at found'
    cases found'
    exact below id' member

theorem reaches (h : r.Buildable records creatable id) (path : r.Reaches records id id') :
    r.Buildable records creatable id' := by
  induction path with
  | refl => exact h
  | tail _ step ih => exact ih.refers step

theorem acyclic (h : r.Buildable records creatable id) : ¬ r.Cyclic records id := by
  induction h with
  | @mk id record found sound below ih =>
    intro cycle
    -- The cycle, entered one step later, is one through an identifier below.
    obtain ⟨next, step, back⟩ := Relation.TransGen.head'_iff.mp cycle
    obtain ⟨record', found', member⟩ := step
    have same : record = record' := by
      rw [found] at found'
      exact Option.some.inj found'
    subst same
    exact ih next member (Relation.TransGen.tail' back ⟨record, found, member⟩)

end Buildable

end Resolver

end StoreGraph
