import Mathlib.Data.List.Dedup
import Mathlib.Data.List.Induction
import Mathlib.Logic.Function.Basic
import StoreGraph.Proofs.Dedup.Ages
import StoreGraph.Proofs.Memory

/-! # Journals

What an in-memory store holds is told by the edits that were made to it, the first one first: under
a key the value that was last put and not removed since (`held_eq_some_iff`). The keys that are
present are shown in the lexicographic order of their bytes (`present_sorted`, `mem_present`).
-/

namespace StoreGraph

/-- A change of the entries of a store. -/
inductive Edit where
  | put (key value : Bytes)
  | del (key : Bytes)
  | clear
  deriving Repr, DecidableEq

namespace Edit

def ask (s : Storage) : Edit → StoreM Unit
  | put key value => s.put key value
  | del key => s.del key
  | clear => s.clear?.getD (pure ())

def apply (m : Memory) : Edit → Memory
  | put key value => m.put key value
  | del key => m.del key
  | clear => m.clear

/-- What an edit makes of the values under all keys. -/
def effect (values : Bytes → Option Bytes) : Edit → Bytes → Option Bytes
  | put key value => Function.update values key (some value)
  | del key => Function.update values key none
  | clear => fun _ => none

/-- Does the edit change what is under the key? -/
def Touches (key : Bytes) : Edit → Prop
  | put key' _ | del key' => key' = key
  | clear => True

/-- The key that is present after the edit for certain. -/
def putKey? : Edit → Option Bytes
  | put key _ => some key
  | del _ | clear => none

theorem run_ask (e : Edit) (cell : Ref .memory) (w : World) :
    (e.ask (.memory cell)).run w = .ok () (w.changeMemory cell e.apply) := by
  cases e <;> rfl

theorem get?_apply (e : Edit) (m : Memory) :
    (e.apply m).entries.get? = e.effect m.entries.get? := by
  funext key
  cases e with
  | put key' value =>
    simp only [apply, Memory.put, effect, SortedMap.get?_insert, Function.update_apply]
  | del key' => simp only [apply, Memory.del, effect, SortedMap.get?_erase, Function.update_apply]
  | clear => rfl

theorem effect_of_not_touches {e : Edit} {key : Bytes} (values : Bytes → Option Bytes)
    (elsewhere : ¬ e.Touches key) : e.effect values key = values key := by
  cases e with
  | put key' value => exact Function.update_of_ne (Ne.symm elsewhere) _ _
  | del key' => exact Function.update_of_ne (Ne.symm elsewhere) _ _
  | clear => exact absurd trivial elsewhere

theorem effect_of_touches {e : Edit} {key value : Bytes} {values : Bytes → Option Bytes}
    (touches : e.Touches key) : e.effect values key = some value ↔ e = put key value := by
  cases e with
  | put key' value' =>
    obtain rfl : key' = key := touches
    simp [effect]
  | del key' =>
    obtain rfl : key' = key := touches
    simp [effect]
  | clear => simp [effect]

end Edit

/-- The edits made to a store, the first one first. -/
abbrev Journal := List Edit

namespace Journal

/-- The values under all keys. -/
def held (past : Journal) : Bytes → Option Bytes := past.foldl Edit.effect fun _ => none

/-- The keys under which there is a value, in order. -/
def present (past : Journal) : List Bytes :=
  ((past.filterMap Edit.putKey?).dedup.filter fun key => (past.held key).isSome).mergeSort
    fun key key' => !KeyOrder.before key' key

variable {past : Journal} {key value : Bytes}

theorem held_concat (past : Journal) (e : Edit) : held (past ++ [e]) = e.effect past.held := by
  rw [held, List.foldl_append]
  rfl

/-- The value was put under the key, and not removed or overwritten since. -/
def PutLast (past : Journal) (key value : Bytes) : Prop :=
  ∃ before after, past = before ++ .put key value :: after ∧ ∀ e ∈ after, ¬ e.Touches key

theorem putLast_concat {e : Edit} : PutLast (past ++ [e]) key value ↔
    e = .put key value ∨ ¬ e.Touches key ∧ past.PutLast key value := by
  constructor
  · rintro ⟨before, after, split, untouched⟩
    rcases List.eq_nil_or_concat after with rfl | ⟨after, last, rfl⟩
    · exact .inl (List.cons.inj (List.append_inj' split rfl).2).1
    · rw [List.concat_eq_append, ← List.cons_append, ← List.append_assoc] at split
      obtain ⟨rfl, same⟩ := List.append_inj' split rfl
      obtain rfl := (List.cons.inj same).1
      simp only [List.concat_eq_append, List.forall_mem_append, List.forall_mem_singleton]
        at untouched
      exact .inr ⟨untouched.2, before, after, rfl, untouched.1⟩
  · rintro (rfl | ⟨elsewhere, before, after, rfl, untouched⟩)
    · exact ⟨past, [], rfl, nofun⟩
    · refine ⟨before, after ++ [e], by rw [List.append_assoc]; rfl, ?_⟩
      rw [List.forall_mem_append, List.forall_mem_singleton]
      exact ⟨untouched, elsewhere⟩

theorem held_eq_some_iff : past.held key = some value ↔ past.PutLast key value := by
  induction past using List.reverseRecOn with
  | nil => simp [held, PutLast]
  | append_singleton past e ih =>
    rw [held_concat, putLast_concat, ← ih]
    by_cases touches : e.Touches key
    · rw [Edit.effect_of_touches touches]
      exact ⟨.inl, fun h => h.resolve_right fun other => other.1 touches⟩
    · rw [Edit.effect_of_not_touches _ touches]
      refine ⟨fun kept => .inr ⟨touches, kept⟩, fun h => (h.resolve_left ?_).2⟩
      rintro rfl
      exact touches rfl

theorem mem_present : key ∈ past.present ↔ ∃ value, past.PutLast key value := by
  simp only [present, List.mem_mergeSort, List.mem_filter, List.mem_dedup, Option.isSome_iff_exists,
    held_eq_some_iff, and_iff_right_iff_imp]
  rintro ⟨value, before, after, rfl, -⟩
  exact List.mem_filterMap.2 ⟨_, List.mem_append_right _ List.mem_cons_self, rfl⟩

/-- Byte strings are ordered as lists of numbers are. -/
theorem before_iff_lt {a b : Bytes} : KeyOrder.before a b = true ↔ a < b := by
  induction a generalizing b with
  | nil => cases b <;> simp [KeyOrder.before, lexBefore]
  | cons x a ih =>
    cases b with
    | nil => simp [KeyOrder.before, lexBefore]
    | cons y b =>
      have less : x < y ↔ x.toNat < y.toNat := UInt8.lt_iff_toNat_lt
      have same : x = y ↔ x.toNat = y.toNat := UInt8.toNat_inj.symm
      rw [List.cons_lt_cons_iff, ← ih]
      simp only [KeyOrder.before, lexBefore, Bool.or_eq_true, Bool.and_eq_true, Bool.not_eq_true',
        decide_eq_true_eq, decide_eq_false_iff_not, less, same]
      constructor
      · rintro (first | ⟨notAfter, rest⟩)
        · exact .inl first
        · exact (Nat.lt_or_eq_of_le (Nat.le_of_not_lt notAfter)).imp_right
            fun equal => ⟨equal, rest⟩
      · rintro (first | ⟨equal, rest⟩)
        · exact .inl first
        · exact .inr ⟨Nat.not_lt.2 (Nat.le_of_eq equal), rest⟩

theorem present_before (past : Journal) :
    past.present.Pairwise fun a b => KeyOrder.before a b = true :=
  mergeSort_sorted ((List.nodup_dedup _).filter _)

theorem present_sorted (past : Journal) : past.present.Pairwise (· < ·) :=
  past.present_before.imp before_iff_lt.1

end Journal

namespace World

/-- The world after edits of a memory cell. -/
def edited (w : World) (cell : Ref .memory) (edits : Journal) : World :=
  edits.foldl (fun w e => w.changeMemory cell e.apply) w

theorem edited_concat (w : World) (cell : Ref .memory) (edits : Journal) (e : Edit) :
    w.edited cell (edits ++ [e]) = (w.edited cell edits).changeMemory cell e.apply := by
  rw [edited, List.foldl_append]
  rfl

/-- What a memory cell holds is what was told about it. -/
def Records (w : World) (cell : Ref .memory) (past : Journal) : Prop :=
  (w.entries cell).get? = past.held

variable {w : World} {cell cell' : Ref .memory} {past : Journal}

theorem records_nil (new : w.entries cell = .empty) : w.Records cell [] := by
  rw [Records, new]
  rfl

theorem Records.edit (records : w.Records cell past) (e : Edit) :
    (w.changeMemory cell e.apply).Records cell (past ++ [e]) := by
  rw [Records, Journal.held_concat, ← records, entries_changeMemory, if_pos rfl]
  exact e.get?_apply (w.memories.get cell)

theorem Records.elsewhere (records : w.Records cell' past) (different : cell' ≠ cell)
    (f : Memory → Memory) : (w.changeMemory cell f).Records cell' past := by
  rw [Records, entries_changeMemory, if_neg different]
  exact records

theorem Records.edited (new : w.entries cell = .empty) (past : Journal) :
    (w.edited cell past).Records cell past := by
  induction past using List.reverseRecOn with
  | nil => exact records_nil new
  | append_singleton past e ih =>
    rw [edited_concat]
    exact ih.edit e

/-- The keys of a cell are those that are present, in the same order. -/
theorem Records.keys (records : w.Records cell past) : (w.entries cell).keys = past.present := by
  refine eq_of_sorted (w.entries cell).keys_pairwise past.present_before fun key => ?_
  rw [SortedMap.mem_keys_iff_get?, Journal.mem_present, records]
  exact exists_congr fun value => Journal.held_eq_some_iff

theorem Records.run_get (records : w.Records cell past) (key : Bytes) :
    ((Storage.memory cell).get key).run w = match past.held key with
      | some value => .ok value w
      | none => .error .notFound w := by
  have run := Storage.run_memory_get cell key w
  rw [records] at run
  exact run

end World

end StoreGraph
