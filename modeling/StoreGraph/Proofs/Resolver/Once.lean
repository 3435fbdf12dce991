import StoreGraph.Proofs.Graph.Passing
import StoreGraph.Proofs.Resolver.Accounts

/-! # Each record is built once

After a resolution that succeeds, exactly the records that the entries reach were read, and all
that refer to an identifier have the same store below them (`SharedGraph`). So what is put into one
store is found in the others above the same record (`records_built_once`), unless they have copies
of their own that are read first (`own_copy_hides_write`).
-/

namespace StoreGraph.Resolver

open Request

/-- The records are as they were read. -/
def AsRead (records : SortedMap Bytes Bytes) (log : List Request) : Prop :=
  ∀ {id raw}, .read id (.ok raw) ∈ log → records.get? id = some raw

/-- The identifier is reached from one of the entries. -/
def ReachedBy (r : Resolver) (records : SortedMap Bytes Bytes) (entries : List Bytes)
    (id : Bytes) : Prop :=
  ∃ entry ∈ entries, r.Reaches records entry id

/-- Every backend that was created is a memory cell. -/
def OverCells (log : List Request) : Prop :=
  ∀ {id url s}, .create id url (.ok s) ∈ log → ∃ cell, s = .memory cell

/-- What was built for the entries is one graph of stores, in which an identifier denotes one store
    wherever it is referred to. Its record was read and, if it is simple, a backend was created for
    it; nothing else was asked for. -/
structure SharedGraph (r : Resolver) (bootstrap : Store) (entries : List Bytes)
    (log : List Request) (stores : List Store) (built : Built) : Prop where
  given : List.Forall₂ (fun id s => built.get? id = some s) entries stores
  denotes : ∀ {id s}, built.get? id = some s → r.Denotes log built id s
  wasRead : ∀ id, (∃ s, built.get? id = some s) ↔ id ∈ readIds log
  told : ∃ records, AsRead records log
  reads : ∀ {records}, AsRead records log → ∀ id, id ∈ readIds log ↔ r.ReachedBy records entries id
  creates : ∀ {records}, AsRead records log → ∀ id, id ∈ createdIds log ↔
    r.ReachedBy records entries id ∧ ∃ url, r.described records id = some (.simple url)
  separate : r.Mints bootstrap → ∀ {id id' cell}, built.get? id = some (.memory cell) →
    built.get? id' = some (.memory cell) → id = id'

section Graph

variable {r : Resolver} {bootstrap : Store} {entries : List Bytes} {built : Built} {w : World}
  {log : List Request} {id : Bytes} {s : Store} {stores : List Store} {record : Record}
  {records : SortedMap Bytes Bytes}

theorem exists_asRead (once : (readIds log).Nodup) : ∃ records, AsRead records log := by
  induction log with
  | nil => exact ⟨.empty, nofun⟩
  | cons request rest ih =>
    have later : (readIds rest).Nodup :=
      once.sublist ((List.sublist_cons_self request rest).filterMap readId?)
    obtain ⟨records, agree⟩ := ih later
    cases request with
    | create id url outcome => exact ⟨records, fun member => agree (by simpa using member)⟩
    | read id outcome =>
      have fresh : id ∉ readIds rest := (List.nodup_cons.mp once).1
      refine ⟨match outcome with
        | .ok raw => records.insert id raw
        | .error _ => records, ?_⟩
      intro id' raw' member
      obtain first | later := List.mem_cons.mp member
      · cases first
        exact SortedMap.get?_insert_self _ _ _
      · have other : id' ≠ id := by
          rintro rfl
          exact fresh (mem_readIds.mpr ⟨_, later⟩)
        cases outcome with
        | ok raw =>
          dsimp only
          rw [SortedMap.get?_insert_of_ne _ other, agree later]
        | error e => exact agree later

theorem Learned.described (learned : r.Learned log id record) (told : AsRead records log) :
    r.described records id = some record := by
  obtain ⟨raw, member, decoded⟩ := learned
  rw [described_of_found (told member), decoded]
  rfl

/-- Only one record was read for an identifier. -/
theorem Learned.unique (learned : r.Learned log id record) (told : AsRead records log)
    {record' : Record} (found : r.described records id = some record') : record' = record := by
  rw [learned.described told] at found
  exact (Option.some.inj found).symm

theorem Sought.reachedBy (sought : r.Sought log entries id) (told : AsRead records log) :
    r.ReachedBy records entries id := by
  induction sought with
  | entry listed => exact ⟨_, listed, .refl⟩
  | reference _ learned names ih =>
    obtain ⟨entry, listed, path⟩ := ih
    exact ⟨entry, listed, path.tail ⟨_, learned.described told, names⟩⟩

theorem BuiltFor.each {names : List String} (below : BuiltFor built names stores) :
    ∀ name ∈ names, ∃ s ∈ stores, built.get? (Bytes.ofText name) = some s := by
  induction below with
  | nil => exact List.forall_mem_nil _
  | @cons name s names stores found _ ih =>
    refine List.forall_mem_cons.mpr ⟨⟨s, List.mem_cons_self, found⟩, fun name member => ?_⟩
    obtain ⟨s', listed, found'⟩ := ih name member
    exact ⟨s', List.mem_cons_of_mem s listed, found'⟩

/-- The stores of all that the record names were built. -/
theorem Denotes.below (denotes : r.Denotes log built id s) :
    ∃ record, r.Learned log id record ∧
      ∀ ref ∈ record.references, ∃ s', built.get? ref = some s' := by
  cases denotes with
  | simple learned created => exact ⟨_, learned, List.forall_mem_nil _⟩
  | sharded learned below some =>
    refine ⟨_, learned, List.forall_mem_map.mpr fun name listed => ?_⟩
    obtain ⟨s', -, found⟩ := below.each name listed
    exact ⟨s', found⟩
  | @redundant record _ _ offload _ learned below named some few =>
    refine ⟨_, learned, List.forall_mem_append.mpr ⟨List.forall_mem_map.mpr fun name listed => ?_,
      fun ref member => ?_⟩⟩
    · obtain ⟨s', -, found⟩ := below.each name listed
      exact ⟨s', found⟩
    · have dedup : ∃ name, record.dedupRef? = .some name ∧ Bytes.ofText name = ref := by
        simpa using member
      obtain ⟨name, dedup, rfl⟩ := dedup
      exact ⟨offload, named name dedup⟩

/-- The store of a redundant record passes every key on to the stores that the record names. -/
theorem Denotes.passes (denotes : r.Denotes log built id s) (told : AsRead records log)
    (record : RedundantRecord) (found : r.described records id = some (.redundant record))
    {name : String} (listed : name ∈ record.storages) {s' : Store}
    (stored : built.get? (Bytes.ofText name) = some s') {key : Bytes} :
    Store.PassesOn key s s' := by
  cases denotes with
  | simple learned created => cases learned.unique told found
  | sharded learned below some => cases learned.unique told found
  | redundant learned below named some few =>
    cases learned.unique told found
    obtain ⟨copy, member, stored'⟩ := below.each name listed
    rw [stored] at stored'
    cases stored'
    exact .redundant member (.refl _)

theorem built_of_reaches (denotes : ∀ {id s}, built.get? id = some s → r.Denotes log built id s)
    (told : AsRead records log) {entry : Bytes} (found : ∃ s, built.get? entry = some s)
    (path : r.Reaches records entry id) : ∃ s, built.get? id = some s := by
  induction path with
  | refl => exact found
  | tail _ step ih =>
    obtain ⟨s, found⟩ := ih
    obtain ⟨record, learned, below⟩ := (denotes found).below
    obtain ⟨record', described, names⟩ := step
    cases learned.unique told described
    exact below _ names

/-- Over memory cells, what was built is wired. -/
theorem wired_of_denotes (denotes : ∀ {id s}, built.get? id = some s → r.Denotes log built id s)
    (cells : OverCells log) (found : built.get? id = some s) : s.Wired := by
  induction size : sizeOf s using Nat.strongRecOn generalizing s id with
  | ind n ih =>
    subst size
    cases denotes found with
    | simple learned created =>
      obtain ⟨cell, rfl⟩ := cells created
      exact .memory cell
    | sharded learned below some =>
      refine .sharded rfl rfl some fun s' member => ?_
      obtain ⟨name, -, found'⟩ := below.found member
      have smaller := List.sizeOf_lt_of_mem member
      refine ih _ ?_ found' rfl
      rw [Store.sharded.sizeOf_spec]
      omega
    | redundant learned below named some few =>
      refine .redundant some few fun s' member => ?_
      obtain ⟨name, -, found'⟩ := below.found member
      have smaller := List.sizeOf_lt_of_mem member
      refine ih _ ?_ found' rfl
      rw [Store.redundant.sizeOf_spec]
      omega

theorem Accounts.sharedGraph (accounts : Accounts r bootstrap entries [] built w log)
    (given : List.Forall₂ (fun id s => built.get? id = some s) entries stores) :
    r.SharedGraph bootstrap entries log stores built := by
  have found : ∀ entry ∈ entries, ∃ s, built.get? entry = some s := by
    clear accounts
    induction given with
    | nil => exact List.forall_mem_nil _
    | cons first _ ih => exact List.forall_mem_cons.mpr ⟨⟨_, first⟩, ih⟩
  have wasRead : ∀ id, (∃ s, built.get? id = some s) ↔ id ∈ readIds log := by
    intro id
    constructor
    · rintro ⟨s, found⟩
      obtain ⟨record, ⟨raw, member, -⟩, -⟩ := (accounts.denotes found).below
      exact mem_readIds.mpr ⟨_, member⟩
    · exact fun member => (accounts.read id member).resolve_left List.not_mem_nil
  have reached : ∀ {records}, AsRead records log → ∀ id,
      (∃ s, built.get? id = some s) ↔ r.ReachedBy records entries id := by
    intro records told id
    constructor
    · rintro ⟨s, found⟩
      exact (accounts.sought found).reachedBy told
    · rintro ⟨entry, listed, path⟩
      exact built_of_reaches accounts.denotes told (found entry listed) path
  refine ⟨given, accounts.denotes, wasRead, exists_asRead accounts.once.1, ?_, ?_, ?_⟩
  · exact fun told id => (wasRead id).symm.trans (reached told id)
  · intro records told id
    rw [mem_createdIds, ← reached told id]
    constructor
    · rintro ⟨url, outcome, member⟩
      obtain ⟨found, learned⟩ := accounts.created member
      exact ⟨found, url, learned.described told⟩
    · rintro ⟨⟨s, found⟩, url, simple⟩
      cases accounts.denotes found with
      | simple learned created => exact ⟨_, _, created⟩
      | sharded learned => cases learned.unique told simple
      | redundant learned => cases learned.unique told simple
  · intro mints id id' cell found found'
    cases accounts.denotes found with
    | simple learned created =>
      cases accounts.denotes found' with
      | simple learned' created' => exact (accounts.separate mints).sole created created'

end Graph

open Store

/-- However resolving ends, no record is read twice and no backend is created twice for one
    identifier. If it succeeds, then the records that were read are those that the entries reach,
    with one store for each of them, which is shared. Over memory cells, what is put into one store
    is then read from every store below it that it is passed on to. Another store above that one
    finds the key too, and answers what was put unless a copy of its own holds something else. -/
theorem records_built_once (r : Resolver) (bootstrap : Store) (entries : List Bytes) (w : World) :
    ∃ outcome log start, (r.resolveNoting entries bootstrap).run w = .ok (outcome, log) start ∧
      (attempt (r.resolveAll entries bootstrap)).run w = .ok outcome start ∧
      (∀ entry, entries = [entry] → ∃ single,
        (attempt (r.resolve entry bootstrap)).run w = .ok single start ∧
          outcome = single.map ([·])) ∧
      (readIds log).Nodup ∧ (createdIds log).Nodup ∧
      ∀ stores, outcome = .ok stores → ∃ built, r.SharedGraph bootstrap entries log stores built ∧
        (OverCells log → ∀ {id₁ id₂ id s₁ s₂ s}, built.get? id₁ = some s₁ →
          built.get? id₂ = some s₂ → built.get? id = some s →
            ∀ {key}, PassesOn key s₁ s → PassesOn key s₂ s → ∀ value now, ∃ after,
              (s₁.put key value).run now = .ok () after ∧ (s.get key).run after = .ok value after ∧
              ∃ found, (s₂.get key).run after = .ok found after ∧
                (found = value ∨ ∃ cell, LeafFor key s₂ cell ∧ ¬ LeafFor key s₁ cell ∧
                  (now.entries cell).get? key = some found)) := by
  have walk := mapM_keeps id (node_keeps_accounts (w.entryCount + 2) [])
    (.start r bootstrap entries w) fun entry listed => .entry listed
  obtain ⟨outcome, log, start, noting, resolved, shown⟩ := resolveNoting_of_logged walk
  refine ⟨outcome, log, start, noting, resolved, ?_, ?_⟩
  · rintro entry rfl
    rw [run_attempt, run_resolveAll_singleton] at resolved
    rw [run_attempt]
    cases single : (r.resolve entry bootstrap).run w with
    | ok s w' =>
      rw [single] at resolved
      cases resolved
      exact ⟨_, rfl, rfl⟩
    | error e w' =>
      rw [single] at resolved
      cases resolved
      exact ⟨_, rfl, rfl⟩
  · cases outcome with
    | error e => exact ⟨shown.1, shown.2, nofun⟩
    | ok stores =>
      obtain ⟨built, accounts', given, -, -⟩ := shown
      refine ⟨accounts'.once.1, accounts'.once.2, ?_⟩
      rintro _ ⟨⟩
      refine ⟨built, accounts'.sharedGraph given, ?_⟩
      intro cells id₁ id₂ id s₁ s₂ s found₁ found₂ found key passes₁ passes₂ value now
      have wired : ∀ {id s}, built.get? id = some s → s.Wired :=
        wired_of_denotes accounts'.denotes cells
      exact put_seen (wired found₁) (wired found₂) (wired found) passes₁ passes₂ value now

/-- A resolver for which the empty record is a memory backend, the record `[1]` is kept in the store
    `shared`, and any other record in the stores `own` and `shared`. -/
def copiesResolver : Resolver where
  registry := .withDefaults
  decoder
    | [] => .ok (Record.simple "memory://").toJson
    | [1] => .ok (Record.redundant { storages := ["shared"] }).toJson
    | _ => .ok (Record.redundant { storages := ["own", "shared"] }).toJson

def copiesRecords : SortedMap Bytes Bytes :=
  (((SortedMap.empty.insert (Bytes.ofText "left") [1]).insert (Bytes.ofText "right") [2]).insert
    (Bytes.ofText "shared") []).insert (Bytes.ofText "own") []

def copiesWorld : World where
  randomness _ := 0
  memories := { cells := SortedMap.empty.insert 0 { entries := copiesRecords }, next := 1 }

/-- Was one of the records read, or a memory cell created? -/
def copiesAsked : Request → Bool
  | .read id (.ok raw) => copiesRecords.get? id == some raw
  | .create _ _ (.ok (.memory _)) => true
  | _ => false

def copiesLog : StoreM (Option Nat × List Bytes × List Bytes × Bool) := do
  let (outcome, log) ← copiesResolver.resolveNoting [Bytes.ofText "left", Bytes.ofText "right"]
    (.memory ⟨0⟩)
  return (outcome.toOption.map List.length, readIds log, createdIds log, log.all copiesAsked)

theorem records_built_once_copies :
    ∃ left right shared log start built,
      (copiesResolver.resolveNoting [Bytes.ofText "left", Bytes.ofText "right"] (.memory ⟨0⟩)).run
        copiesWorld = .ok (.ok [left, right], log) start ∧
      readIds log = ["left", "shared", "right", "own"].map Bytes.ofText ∧
      createdIds log = ["shared", "own"].map Bytes.ofText ∧
      copiesResolver.SharedGraph (.memory ⟨0⟩) [Bytes.ofText "left", Bytes.ofText "right"] log
        [left, right] built ∧
      built.get? (Bytes.ofText "shared") = some shared ∧
      (∀ cell, shared = .memory cell → built.get? (Bytes.ofText "own") ≠ some (.memory cell)) ∧
      ∃ after found, (left.put [7] [8]).run start = .ok () after ∧
        (shared.get [7]).run after = .ok [8] after ∧
        (right.get [7]).run after = .ok found after := by
  obtain ⟨w, run⟩ := exists_run_of_run' (by decide +kernel : copiesLog.run' copiesWorld =
    some (some 2, ["left", "shared", "right", "own"].map Bytes.ofText,
      ["shared", "own"].map Bytes.ofText, true))
  obtain ⟨outcome, log, start, noting, -, -, -, -, graph⟩ := records_built_once copiesResolver
    (.memory ⟨0⟩) [Bytes.ofText "left", Bytes.ofText "right"] copiesWorld
  simp only [copiesLog, run_bind_eq_ok_iff, noting] at run
  obtain ⟨_, _, ⟨⟩, answered⟩ := run
  obtain ⟨⟨two, read, created, asked⟩, -⟩ : (outcome.toOption.map List.length = some 2 ∧
      readIds log = ["left", "shared", "right", "own"].map Bytes.ofText ∧
      createdIds log = ["shared", "own"].map Bytes.ofText ∧ log.all copiesAsked = true) ∧
      start = w := by simpa using answered
  have told : AsRead copiesRecords log := fun member => by
    simpa [copiesAsked] using List.all_eq_true.mp asked _ member
  have cells : OverCells log := by
    intro id url s member
    have asked := List.all_eq_true.mp asked _ member
    cases s with
    | memory cell => exact ⟨cell, rfl⟩
    | _ => cases asked
  cases outcome with
  | error e => cases two
  | ok stores =>
    obtain ⟨left, right, rfl⟩ := List.length_eq_two.mp (Option.some.inj two)
    obtain ⟨built, graph, seen⟩ := graph _ rfl
    obtain ⟨foundLeft, foundRight⟩ : built.get? (Bytes.ofText "left") = some left ∧
        built.get? (Bytes.ofText "right") = some right := by simpa using graph.given
    obtain ⟨shared, foundShared⟩ : ∃ s, built.get? (Bytes.ofText "shared") = some s := by
      rw [graph.wasRead, read]
      decide
    have passesLeft : PassesOn [7] left shared := (graph.denotes foundLeft).passes told
      { storages := ["shared"] } (by rfl) (by simp) foundShared
    have passesRight : PassesOn [7] right shared := (graph.denotes foundRight).passes told
      { storages := ["own", "shared"] } (by rfl) (by simp) foundShared
    obtain ⟨after, put, get, found, other, -⟩ :=
      seen cells foundLeft foundRight foundShared passesLeft passesRight [8] start
    refine ⟨left, right, shared, log, start, built, noting, read, created, graph, foundShared, ?_,
      after, found, put, get, other⟩
    rintro cell rfl foundOwn
    have same := graph.separate (mints_withDefaults rfl ⟨0⟩) foundShared foundOwn
    exact absurd same (by decide)

/-- Put a value into `right`, another one into `left`, and read it from `right`. -/
def copiesRun : StoreM (Bytes × Nat) := do
  let stores ← copiesResolver.resolveAll [Bytes.ofText "left", Bytes.ofText "right"] (.memory ⟨0⟩)
  let left := stores[0]?.getD .nop
  let right := stores[1]?.getD .nop
  right.put [7] [1]
  left.put [7] [2]
  let seen ← right.get [7]
  return (seen, stores.length)

/-- Of two stores above one, the second answers what an earlier copy of its own holds, not what was
    put into the first one last. -/
theorem own_copy_hides_write :
    ∃ left right start between now after,
      (copiesResolver.resolveAll [Bytes.ofText "left", Bytes.ofText "right"] (.memory ⟨0⟩)).run
        copiesWorld = .ok [left, right] start ∧
      (right.put [7] [1]).run start = .ok () between ∧
      (left.put [7] [2]).run between = .ok () now ∧ (right.get [7]).run now = .ok [1] after ∧
      copiesResolver.Refers copiesRecords (Bytes.ofText "left") (Bytes.ofText "shared") ∧
      copiesResolver.Refers copiesRecords (Bytes.ofText "right") (Bytes.ofText "shared") := by
  obtain ⟨w, run⟩ := exists_run_of_run'
    (by decide +kernel : copiesRun.run' copiesWorld = some ([1], 2))
  simp only [copiesRun, run_bind_eq_ok_iff] at run
  obtain ⟨stores, start, resolved, _, between, first, _, now, second, seen, last, read, done⟩ := run
  obtain ⟨⟨rfl, two⟩, rfl⟩ : (seen = [1] ∧ stores.length = 2) ∧ last = w := by simpa using done
  obtain ⟨left, right, rfl⟩ := List.length_eq_two.mp two
  refine ⟨left, right, start, between, now, last, resolved, first, second, read, ?_, ?_⟩
  · exact ⟨.redundant { storages := ["shared"] }, by rfl, by decide⟩
  · exact ⟨.redundant { storages := ["own", "shared"] }, by rfl, by decide⟩

end StoreGraph.Resolver
