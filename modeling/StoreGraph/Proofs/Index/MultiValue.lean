import Mathlib.Data.List.Nodup
import StoreGraph.Proofs.Creation
import StoreGraph.Proofs.Index.Links
import StoreGraph.Proofs.Json.RoundTrip
import StoreGraph.Proofs.Plain

/-! # Multi-value indexes

What the operations of a multi-value index over a plain store do. The lists that it stores as JSON
text are read back as they were written, whatever bytes the keys have (`decode_toJson`). A change
makes few calls, and it fails as the first of them that fails: then nothing has changed
(`performs_change`). As long as no call fails, all linked pairs are visited in order
(`inTurn_iterate`).
-/

namespace StoreGraph

open KeyOrder

namespace MultiValueIndex

/-! ## Stored lists -/

theorem byte?_ofNat (b : UInt8) : byte? (.ofNat b.toNat) = some b := by
  simp [byte?, Json.nat?, Json.ofNat, UInt8.toNat_lt b]

/-- A list is read back if each of its members is. -/
theorem mapM_map {α β : Type} {write : α → β} {read : β → Option α}
    (each : ∀ a, read (write a) = some a) (as : List α) : (as.map write).mapM read = some as := by
  induction as with
  | nil => rfl
  | cons a rest ih => simp [each, ih]

theorem primaries?_toJson (primaries : List Bytes) :
    primaries? (toJson primaries) = some primaries := by
  have inner : ∀ key : Bytes, bytes? (.array (key.map fun b => .ofNat b.toNat)) = some key :=
    fun key => mapM_map byte?_ofNat key
  exact mapM_map inner primaries

theorem decode_toJson (primaries : List Bytes) :
    decode (toJson primaries).toBytes = .ok primaries := by
  let document (key : Bytes) : Json := .array (key.map fun b => .ofNat b.toNat)
  have opens : ∀ item ∈ primaries.map document, item.Opens := by
    intro item member
    obtain ⟨key, -, rfl⟩ := List.mem_map.mp member
    exact Json.opens_array _
  have each : ∀ item ∈ primaries.map document,
      item.ReadsBack (Json.write (.array (primaries.map document))).length (Json.maxDepth - 1) := by
    intro item member
    have short := Json.length_write_of_mem member
    obtain ⟨key, -, rfl⟩ := List.mem_map.mp member
    change Json.ReadsBack _ (Json.maxDepth - 2 + 1) _
    refine Json.readsBack_array ?_ ?_ ?_
    · intro byte member
      obtain ⟨b, -, rfl⟩ := List.mem_map.mp member
      exact Json.readsBack_ofNat (Nat.lt_trans b.toNat_lt (by decide))
    · intro byte member
      obtain ⟨b, -, rfl⟩ := List.mem_map.mp member
      exact Json.opens_ofNat _
    · exact Nat.le_trans (Json.length_write_array _) short
  have parsed : Json.parse (toJson primaries).toBytes = .ok (toJson primaries) :=
    Json.parse_toBytes_array each opens
  rw [decode, parsed]
  dsimp only
  rw [primaries?_toJson]

/-- What the store holds for a list of primary keys. -/
def stored (primaries : List Bytes) : Option Bytes :=
  if primaries = [] then none else some (toJson primaries).toBytes

/-- The entries after a list was saved. -/
def saved (entries : SortedMap Bytes Bytes) (secondary : Bytes) (primaries : List Bytes) :
    SortedMap Bytes Bytes :=
  if primaries = [] then entries.erase secondary
  else entries.insert secondary (toJson primaries).toBytes

theorem get?_saved (entries : SortedMap Bytes Bytes) (secondary : Bytes) (primaries : List Bytes)
    (s : Bytes) : (saved entries secondary primaries).get? s =
      if s = secondary then stored primaries else entries.get? s := by
  unfold saved stored
  by_cases none : primaries = []
  · rw [if_pos none, if_pos none, SortedMap.get?_erase]
  · rw [if_neg none, if_neg none, SortedMap.get?_insert]

/-- The entries hold the lists of primary keys. -/
def Holds (entries : SortedMap Bytes Bytes) (linked : Bytes → List Bytes) : Prop :=
  ∀ s, entries.get? s = stored (linked s)

end MultiValueIndex

namespace LinkChange

/-- Make the change. -/
def run (index : MultiValueIndex) : LinkChange → StoreM Unit
  | link primary secondary => index.link primary secondary
  | unlink primary secondary => index.unlink primary secondary

/-- There is nothing to change: keys are to be linked that are, or unlinked that are not. -/
def Idle : LinkChange → List Bytes → Prop
  | link primary _, primaries => primary ∈ primaries
  | unlink primary _, primaries => primary ∉ primaries

instance (change : LinkChange) (primaries : List Bytes) : Decidable (change.Idle primaries) :=
  match change with
  | link primary _ => inferInstanceAs (Decidable (primary ∈ primaries))
  | unlink primary _ => inferInstanceAs (Decidable (primary ∉ primaries))

/-- The call that saves a list of primary keys. -/
def saving (secondary : Bytes) (primaries : List Bytes) : Call :=
  if primaries = [] then .del secondary
  else .put secondary (MultiValueIndex.toJson primaries).toBytes

/-- The calls that the change makes, given the list that it finds. -/
def calls (change : LinkChange) (primaries : List Bytes) : List Call :=
  .get change.secondary ::
    if change.Idle primaries then []
    else [saving change.secondary (change.revise primaries)]

theorem revise_idle {change : LinkChange} {primaries : List Bytes} (idle : change.Idle primaries) :
    change.revise primaries = primaries := by
  cases change with
  | link primary secondary => exact if_pos idle
  | unlink primary secondary =>
    refine List.filter_eq_self.mpr fun p member => decide_eq_true ?_
    rintro rfl
    exact idle member

theorem apply_idle {change : LinkChange} {linked : Bytes → List Bytes}
    (idle : change.Idle (linked change.secondary)) : change.apply linked = linked := by
  rw [apply, revise_idle idle, Function.update_eq_self]

end LinkChange

namespace MultiValueIndex

/-! ## Changes -/

/-- The entries after a change that meets the given list. -/
def changed (entries : SortedMap Bytes Bytes) (change : LinkChange) (primaries : List Bytes) :
    SortedMap Bytes Bytes :=
  if change.Idle primaries then entries
  else saved entries change.secondary (change.revise primaries)

theorem Holds.change {entries : SortedMap Bytes Bytes} {linked : Bytes → List Bytes}
    (holds : Holds entries linked) (change : LinkChange) :
    Holds (changed entries change (linked change.secondary)) (change.apply linked) := by
  intro s
  rw [changed]
  by_cases idle : change.Idle (linked change.secondary)
  · rw [if_pos idle, LinkChange.apply_idle idle, holds]
  · rw [if_neg idle, get?_saved, LinkChange.apply, Function.update_apply]
    split
    · rfl
    · exact holds s

/-- A change leaves the entries of other secondary keys alone. -/
theorem get?_changed_of_ne {entries : SortedMap Bytes Bytes} {change : LinkChange}
    {primaries : List Bytes} {s : Bytes} (other : s ≠ change.secondary) :
    (changed entries change primaries).get? s = entries.get? s := by
  rw [changed]
  split
  · rfl
  · rw [get?_saved, if_neg other]

/-- The action fails as the first of the calls that fails, and then without effect, or it leaves the
    given entries. -/
inductive Performs (p : PlainStore) (calls : List Call) (x : StoreM Unit) (w : World)
    (entries : SortedMap Bytes Bytes) : Prop where
  | done {w'} (steady : p.Steady w w') (written : p.entries w' = entries)
      (fine : p.store.firstFailure? w calls = none) (run : x.run w = .ok () w')
  | failed {w' e} (spares : p.Spares w w') (faulty : ¬ p.Faultless w)
      (failure : p.store.firstFailure? w calls = some e) (run : x.run w = .error e w')

section Changes

variable {p : PlainStore} {w : World} {secondary : Bytes} {primaries : List Bytes}
  {entries : SortedMap Bytes Bytes} {calls : List Call}

theorem save_eq (index : MultiValueIndex) (secondary : Bytes) (primaries : List Bytes) :
    index.save secondary primaries = (LinkChange.saving secondary primaries).make index.store := by
  cases primaries with
  | nil => rfl
  | cons => rfl

theorem performs_save (p : PlainStore) (secondary : Bytes) (primaries : List Bytes) (w : World) :
    Performs p [LinkChange.saving secondary primaries]
      (MultiValueIndex.save ⟨p.store⟩ secondary primaries) w
      (saved (p.entries w) secondary primaries) := by
  have writes : p.Writes (MultiValueIndex.save ⟨p.store⟩ secondary primaries) w
      (saved (p.entries w) secondary primaries) := by
    cases primaries with
    | nil => exact p.writes_del secondary w
    | cons first rest => exact p.writes_put secondary _ w
  cases writes with
  | done steady written run =>
    refine .done steady written ?_ run
    rw [save_eq] at run
    simp only [Store.firstFailure?, run]
  | failed spares faulty run =>
    refine .failed spares faulty ?_ run
    rw [save_eq] at run
    simp only [Store.firstFailure?, run]

theorem spares_reporting (p : PlainStore) (w : World) (event : Event) :
    p.Spares w (w.reporting event) := by
  cases p with
  | memory cell => exact ⟨⟨id, id⟩, rfl⟩
  | probe cell traits => exact ⟨⟨id, id⟩, rfl⟩

/-- A list is saved alike before and after an event is reported. -/
theorem run_save_reporting (p : PlainStore) (secondary : Bytes) (primaries : List Bytes) (w : World)
    (event : Event) :
    (save ⟨p.store⟩ secondary primaries).run (w.reporting event) =
      match (save ⟨p.store⟩ secondary primaries).run w with
      | .ok _ w' => .ok () (w'.reporting event)
      | .error e w' => .error e (w'.reporting event) := by
  cases p with
  | memory cell =>
    cases primaries with
    | nil => rfl
    | cons first rest => rfl
  | probe cell traits =>
    have writes : ∀ call f, (Probe.write cell call f).run (w.reporting event) =
        match (Probe.write cell call f).run w with
        | .ok _ w' => .ok () (w'.reporting event)
        | .error e w' => .error e (w'.reporting event) := by
      intro call f
      have same : (w.reporting event).fault? cell call = w.fault? cell call := rfl
      rw [Probe.run_write, Probe.run_write, same]
      cases w.fault? cell call with
      | none => rfl
      | some e => rfl
    cases primaries with
    | nil => exact writes (.del secondary) (·.del secondary)
    | cons first rest => exact writes (.put secondary _) (·.put secondary _)

theorem performs_report_save (p : PlainStore) (event : Event) (secondary : Bytes)
    (primaries : List Bytes) (w : World) :
    Performs p [LinkChange.saving secondary primaries]
      (do StoreM.report event; save ⟨p.store⟩ secondary primaries) w
      (saved (p.entries w) secondary primaries) := by
  have opened : (do StoreM.report event; save ⟨p.store⟩ secondary primaries).run w =
      (save ⟨p.store⟩ secondary primaries).run (w.reporting event) := by
    rw [EStateM.run_bind, StoreM.run_report]
    rfl
  have saves := run_save_reporting p secondary primaries w event
  cases performs_save p secondary primaries w with
  | @done w' steady written fine run =>
    rw [run] at saves
    have spares := spares_reporting p w' event
    exact .done (steady.trans spares.toSteady) (spares.entries.trans written) fine
      (opened.trans saves)
  | @failed w' e spares faulty failure run =>
    rw [run] at saves
    exact .failed (p.frame_spares.trans spares (spares_reporting p w' event)) faulty failure
      (opened.trans saves)

/-- A list is loaded as it was stored, unless reading it fails. -/
theorem run_load (candid : p.Candid w)
    (held : (p.entries w).get? secondary = stored primaries) :
    (load ⟨p.store⟩ secondary).run w = match (p.store.find? secondary).run w with
      | .ok _ w' => .ok primaries w'
      | .error e w' => .error e w' := by
  have known : ∀ w', (p.store.find? secondary).run w = .ok ((p.entries w).get? secondary) w' →
      (load ⟨p.store⟩ secondary).run w = .ok primaries w' := by
    intro w' run
    simp only [load, EStateM.run_bind, run, held]
    cases primaries with
    | nil => rfl
    | cons first rest =>
      have kept : stored (first :: rest) = some (toJson (first :: rest)).toBytes := rfl
      rw [kept]
      dsimp only
      rw [decode_toJson]
      rfl
  cases p.tries_find candid secondary with
  | answers spares run => rw [known _ run, run]
  | fails spares faulty run => simp only [load, EStateM.run_bind, run]

/-- What follows a load is performed with the list that was stored. -/
theorem Performs.afterLoad (candid : p.Candid w)
    (held : (p.entries w).get? secondary = stored primaries) {next : List Bytes → StoreM Unit}
    (performs : ∀ w', p.Spares w w' → Performs p calls (next primaries) w' entries) :
    Performs p (.get secondary :: calls) (load ⟨p.store⟩ secondary >>= next) w entries := by
  have loaded := run_load candid held
  cases p.tries_find candid secondary with
  | @fails w₁ e spares faulty run =>
    rw [run] at loaded
    refine .failed (e := e) spares faulty ?_ ?_
    · simp only [Store.firstFailure?, Call.make, EStateM.run_bind, run]
    · rw [EStateM.run_bind, loaded]
  | @answers w₁ spares run =>
    rw [run] at loaded
    have first : p.store.firstFailure? w (.get secondary :: calls) =
        p.store.firstFailure? w₁ calls := by
      simp only [Store.firstFailure?, Call.make, EStateM.run_bind, run, EStateM.run_pure]
    have opened : (load ⟨p.store⟩ secondary >>= next).run w = (next primaries).run w₁ := by
      rw [EStateM.run_bind, loaded]
    cases performs w₁ spares with
    | done steady written fine run' =>
      exact .done (spares.toSteady.trans steady) written (first.trans fine) (opened.trans run')
    | failed spares' faulty failure run' =>
      exact .failed (p.frame_spares.trans spares spares')
        (fun faultless => faulty (spares.faultless faultless)) (first.trans failure)
        (opened.trans run')

/-- Every change makes its calls, and has its effect unless one of them fails. -/
theorem performs_change (candid : p.Candid w) (change : LinkChange)
    (held : (p.entries w).get? change.secondary = stored primaries) :
    Performs p (change.calls primaries) (change.run ⟨p.store⟩) w
      (changed (p.entries w) change primaries) := by
  have idle : ∀ w', p.Spares w w' → Performs p [] (pure ()) w' (p.entries w) := fun w' spares =>
    .done (p.frame_spares.refl w').toSteady spares.entries rfl rfl
  cases change with
  | link primary secondary =>
    by_cases known : primary ∈ primaries
    · have nothing : (LinkChange.link primary secondary).Idle primaries := known
      rw [changed, if_pos nothing, LinkChange.calls, if_pos nothing]
      refine Performs.afterLoad candid held fun w' spares => ?_
      simpa [known] using idle w' spares
    · have something : ¬ (LinkChange.link primary secondary).Idle primaries := known
      rw [changed, if_neg something, LinkChange.calls, if_neg something]
      refine Performs.afterLoad candid held fun w' spares => ?_
      have saves := performs_save p secondary (primaries ++ [primary]) w'
      rw [spares.entries] at saves
      simpa [known, LinkChange.revise, LinkChange.secondary] using saves
  | unlink primary secondary =>
    have left : primaries.filter (· != primary) = primaries.filter (· ≠ primary) :=
      List.filter_congr fun p _ => by rw [bne, Bool.beq_eq_decide_eq, decide_not]
    have unchanged : (primaries.filter (· ≠ primary)).length = primaries.length ↔
        primary ∉ primaries := by
      rw [List.length_filter_eq_length_iff]
      grind
    by_cases known : primary ∈ primaries
    · have something : ¬ (LinkChange.unlink primary secondary).Idle primaries := fun h => h known
      rw [changed, if_neg something, LinkChange.calls, if_neg something]
      refine Performs.afterLoad candid held fun w' spares => ?_
      have saves := performs_report_save p
        (.primaryUnlinked secondary (primaries.filter (· ≠ primary)).length) secondary
        (primaries.filter (· ≠ primary)) w'
      rw [spares.entries] at saves
      rw [left, if_neg (unchanged.not.mpr (not_not.mpr known))]
      exact saves
    · have nothing : (LinkChange.unlink primary secondary).Idle primaries := known
      rw [changed, if_pos nothing, LinkChange.calls, if_pos nothing]
      refine Performs.afterLoad candid held fun w' spares => ?_
      rw [left, if_pos (unchanged.mpr known)]
      exact idle w' spares

end Changes

/-! ## Enumerations -/

/-- The linked pairs, primary key first: by the secondary keys, and those of one secondary key as
    they are listed. -/
structure Tour (linked : Bytes → List Bytes) (pairs : List (Bytes × Bytes)) : Prop where
  complete : ∀ primary secondary, (primary, secondary) ∈ pairs ↔ primary ∈ linked secondary
  once : pairs.Nodup
  ordered : ∃ secondaries : List Bytes, secondaries.Pairwise (before · · = true) ∧
    pairs = secondaries.flatMap fun s => (linked s).map (·, s)

section Enumerations

variable {p : PlainStore} {w : World} {linked : Bytes → List Bytes}

theorem contains_iff (holds : Holds (p.entries w) linked) (secondary : Bytes) :
    (p.entries w).contains secondary = true ↔ linked secondary ≠ [] := by
  rw [SortedMap.contains, holds, stored]
  split <;> simp [*]

theorem tour_keys (holds : Holds (p.entries w) linked) (once : ∀ s, (linked s).Nodup) :
    Tour linked ((p.entries w).keys.flatMap fun s => (linked s).map (·, s)) where
  complete primary secondary := by
    have listed : secondary ∈ (p.entries w).keys ↔ linked secondary ≠ [] :=
      (SortedMap.mem_keys_iff _).trans (contains_iff holds secondary)
    simp only [List.mem_flatMap, List.mem_map, Prod.mk.injEq]
    constructor
    · rintro ⟨s, -, p, member, rfl, rfl⟩
      exact member
    · intro member
      exact ⟨secondary, listed.mpr (List.ne_nil_of_mem member), primary, member, rfl, rfl⟩
  once := by
    refine List.nodup_flatMap.mpr ⟨fun s _ => ?_, (SortedMap.keys_nodup _).imp ?_⟩
    · exact (once s).map fun p q same => (Prod.mk.inj same).1
    · intro s s' apart pair first second
      obtain ⟨p, -, rfl⟩ := List.mem_map.mp first
      obtain ⟨q, -, same⟩ := List.mem_map.mp second
      exact apart (Prod.mk.inj same).2.symm
  ordered := ⟨_, SortedMap.keys_pairwise _, rfl⟩

theorem moves_load (p : PlainStore) (secondary : Bytes) :
    Moves p.Spares (load ⟨p.store⟩ secondary) := by
  have frame := p.frame_spares
  refine .bind frame (PlainStore.spares_find secondary) fun found => ?_
  cases found with
  | none => exact .pure frame _
  | some raw =>
    dsimp only
    cases decode raw with
    | ok primaries => exact .pure frame _
    | error detail => exact .throw frame _

variable {τ : Type} {visit : Bytes → Bytes → VisitM τ Unit} {t : τ}

/-- What is done at one secondary key. -/
theorem leaves_listed (visits : ∀ primary secondary, Leaves p.Spares (visit primary secondary))
    (secondary : Bytes) : Leaves p.Spares (do
      let primaries ← StoreM.visiting (load ⟨p.store⟩ secondary)
      primaries.forM fun primary => visit primary secondary) := by
  have frame := p.frame_spares.world (τ := τ)
  refine Moves.bind frame (moves_load p secondary).visiting fun primaries => ?_
  exact .forM frame fun primary _ => visits primary secondary

theorem leaves_iterate (visits : ∀ primary secondary, Leaves p.Spares (visit primary secondary)) :
    Leaves p.Spares (iterate ⟨p.store⟩ visit) :=
  PlainStore.leaves_keys (leaves_listed visits)

/-- As long as no call fails, the linked pairs are visited in turn. -/
theorem inTurn_iterate (candid : p.Candid w) (faultless : p.Faultless w)
    (holds : Holds (p.entries w) linked)
    (visits : ∀ primary secondary, Leaves p.Spares (visit primary secondary)) :
    InTurn p.Spares (fun pair => visit pair.1 pair.2)
      ((p.entries w).keys.flatMap fun s => (linked s).map (·, s)) (w, t)
      ((iterate ⟨p.store⟩ visit).run (w, t)) := by
  have frame := p.frame_spares
  -- The store stays as it is while the pairs are visited.
  let known (w' : World) : Prop :=
    p.Candid w' ∧ p.Faultless w' ∧ p.entries w' = p.entries w
  have steady : ∀ {w₁ w₂}, p.Spares w₁ w₂ → known w₁ → known w₂ :=
    fun spares ⟨candid, faultless, same⟩ =>
      ⟨spares.candid candid, spares.faultless faultless, spares.entries.trans same⟩
  refine InTurn.flatMap frame steady ?_ (leaves_listed visits) ⟨candid, faultless, rfl⟩
    (PlainStore.inTurn_keys faultless (leaves_listed visits))
  rintro secondary w₁ t ⟨candid₁, faultless₁, same⟩
  have held : (p.entries w₁).get? secondary = stored (linked secondary) := by
    rw [same, holds]
  have loaded := run_load candid₁ held
  cases p.tries_find candid₁ secondary with
  | fails spares faulty run => exact absurd faultless₁ faulty
  | @answers w₂ spares run =>
    rw [run] at loaded
    simp only [EStateM.run_bind, StoreM.run_visiting, loaded]
    have visited : InTurn p.Spares (fun primary => visit primary secondary) (linked secondary)
        (w₂, t) (((linked secondary).forM fun primary => visit primary secondary).run (w₂, t)) :=
      .forM frame steady (fun primary => visits primary _)
        (fun _ w t _ => ⟨w, frame.refl w, rfl⟩) (steady spares ⟨candid₁, faultless₁, same⟩)
    exact (visited.map (·, secondary)).prepend frame spares

end Enumerations

end MultiValueIndex

end StoreGraph
