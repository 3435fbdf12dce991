import StoreGraph.Proofs.Resolver.Acceptance

/-! # What a resolver asks for

Building turns to two parties: records are read from the bootstrap store, and backends are created
by the registry. The walk of a resolver is written once more over tools for these two and for every
other action on the world. With the plain tools it is the walk that resolves (`Tools.node_plain`);
with tools that note what they ask for, each request is found in a log. Both walks are compared
step by step (`Logged`), so that what is shown of the log is shown of resolving.
-/

namespace StoreGraph

/-- What a resolver asks for: the record of an identifier, or a backend for the identifier of a
    simple record; each with what came of it. -/
inductive Request where
  | read (id : Bytes) (outcome : Except Error Bytes)
  | create (id : Bytes) (url : String) (outcome : Except Error Store)

namespace Request

def readId? : Request → Option Bytes
  | read id _ => some id
  | create .. => none

def createdId? : Request → Option Bytes
  | read .. => none
  | create id _ _ => some id

/-- The identifiers whose records were read, in the order of the reads. -/
def readIds (log : List Request) : List Bytes := log.filterMap readId?

/-- The identifiers for which backends were asked for, in this order. -/
def createdIds (log : List Request) : List Bytes := log.filterMap createdId?

end Request

/-- Actions in the course of which stores are built. -/
abbrev Building (σ : Type) := StateT Built (EStateM Error σ)

/-- What a walk turns to the outside with. -/
structure Tools (σ : Type) where
  act : {α : Type} → StoreM α → EStateM Error σ α
  read : Bytes → EStateM Error σ Bytes
  create : Bytes → String → EStateM Error σ Store

namespace Tools

variable {σ α : Type}

def inContext (doing : String) (x : Building σ α) : Building σ α := fun built =>
  withContext doing (x built)

def nodes (node : Bytes → Building σ Store) (role : String) (ids : List String) :
    Building σ (List Store) :=
  ids.mapM fun id => inContext s!"get {role} '{id}'" (node (Bytes.ofText id))

def offload (tools : Tools σ) (node : Bytes → Building σ Store) (record : RedundantRecord) :
    Building σ Store :=
  match record.dedupRef? with
  | none => liftM (tools.act Store.newMemory)
  | some id => inContext s!"get deduplication storage '{id}'" (node (Bytes.ofText id))

def buildSharded (tools : Tools σ) (r : Resolver) (node : Bytes → Building σ Store)
    (ids : List String) : Building σ Store := do
  let shards ← nodes node "shard" ids
  tools.act (Store.newArray r.hasher.hash shards)

def buildRedundant (tools : Tools σ) (node : Bytes → Building σ Store) (name : String)
    (record : RedundantRecord) : Building σ Store := do
  let backs ← nodes node "backed storage" record.storages
  let offload ← tools.offload node record
  let demand ← tools.act (ofExcept (Resolver.writeDemand name backs.length record.writeAtLeast))
  let dedup ← tools.act (Dedup.newOffloaded offload)
  tools.act (Store.newRedundant (.quorum demand) backs dedup.scheme dedup.store)

def build (tools : Tools σ) (r : Resolver) (node : Bytes → Building σ Store) (id : Bytes) :
    Building σ Store := do
  let name := id.lossyText
  let raw ← withContext s!"load record '{name}'" (tools.read id)
  let record ← withContext s!"decode record '{name}'" (tools.act (ofExcept (r.decode raw)))
  tools.act (StoreM.report (.recordBuilding record.kind name))
  match record with
  | .simple url => withContext s!"create storage '{name}'" (tools.create id url)
  | .sharded shards => tools.buildSharded r node shards
  | .redundant redundant => tools.buildRedundant node name redundant

/-- Build the store of an identifier, unless it was built before or waits. -/
def unlessBuilt (waiting : List Bytes) (id : Bytes) (build : Building σ Store) :
    Building σ Store := do
  match (← get).get? id with
  | some store => return store
  | none =>
    if waiting.contains id then throw (.cycleDetected id.lossyText)
    let store ← build
    modify fun built => built.insert id store
    return store

def node (tools : Tools σ) (r : Resolver) : Nat → List Bytes → Bytes → Building σ Store
  | 0, _, id => throw (.cycleDetected id.lossyText)
  | fuel + 1, waiting, id =>
    unlessBuilt waiting id (tools.build r (tools.node r fuel (id :: waiting)) id)

/-- The tools that a resolver builds with. -/
def plain (r : Resolver) (bootstrap : Store) : Tools World where
  act x := x
  read id := bootstrap.get id
  create _ url := r.registry.create url

theorem node_plain (r : Resolver) (bootstrap : Store) (fuel : Nat) (waiting : List Bytes)
    (id : Bytes) :
    (plain r bootstrap).node r fuel waiting id = r.node bootstrap fuel waiting id := by
  induction fuel generalizing waiting id with
  | zero => rfl
  | succ fuel ih =>
    have calls : (plain r bootstrap).node r fuel (id :: waiting) =
        r.node bootstrap fuel (id :: waiting) := funext fun ref => ih (id :: waiting) ref
    have redundant : ∀ (node : Bytes → BuildM Store) name record,
        (plain r bootstrap).buildRedundant node name record =
          Resolver.buildRedundant node name record := fun node name record =>
      (Resolver.buildRedundant_eq node name record).symm
    have build : ∀ node : Bytes → BuildM Store,
        (plain r bootstrap).build r node id = r.build bootstrap node id := by
      intro node
      unfold Tools.build Resolver.build
      simp only [redundant]
      rfl
    calc (plain r bootstrap).node r (fuel + 1) waiting id
      _ = unlessBuilt waiting id
            ((plain r bootstrap).build r ((plain r bootstrap).node r fuel (id :: waiting)) id) :=
        rfl
      _ = unlessBuilt waiting id
            (r.build bootstrap (r.node bootstrap fuel (id :: waiting)) id) := by
        rw [calls, build]
      _ = r.node bootstrap (fuel + 1) waiting id := rfl

/-- Ask for something, and note it with what came of it. -/
def noted (x : StoreM α) (request : Except Error α → Request) : VisitM (List Request) α := do
  let outcome ← attempt (StoreM.visiting x)
  VisitM.note (· ++ [request outcome])
  ofExcept outcome

theorem run_noted (x : StoreM α) (request : Except Error α → Request) (w : World)
    (log : List Request) :
    (noted x request).run (w, log) = match x.run w with
      | .ok a w' => .ok a (w', log ++ [request (.ok a)])
      | .error e w' => .error e (w', log ++ [request (.error e)]) := by
  simp only [noted, EStateM.run_bind, run_attempt, StoreM.run_visiting]
  cases x.run w <;> rfl

/-- Tools that note what is asked for. -/
def noting (r : Resolver) (bootstrap : Store) : Tools (World × List Request) where
  act := StoreM.visiting
  read id := noted (bootstrap.get id) (.read id)
  create id url := noted (r.registry.create url) (.create id url)

/-- Build the stores of several records in one graph. -/
def resolveAll (tools : Tools σ) (r : Resolver) (fuel : Nat) (entries : List Bytes) :
    EStateM Error σ (List Store) :=
  (entries.mapM (tools.node r fuel [])).run' .empty

end Tools

/-- Build the stores of several records in one graph, and answer with how it went and with what was
    asked for. -/
def Resolver.resolveNoting (r : Resolver) (entries : List Bytes) (bootstrap : Store) :
    StoreM (Except Error (List Store) × List Request) := do
  let fuel := (← getThe World).entryCount + 2
  VisitM.observe [] ((Tools.noting r bootstrap).resolveAll r fuel entries)

section Runs

variable {σ α β : Type} {x : Building σ α} {f : α → Building σ β} {built built' : Built} {s s' : σ}

theorem Building.run_bind_of_ok {a : α} (run : (x.run built).run s = .ok (a, built') s') :
    ((x >>= f).run built).run s = ((f a).run built').run s' := by
  rw [StateT.run_bind, EStateM.run_bind, run]

theorem Building.run_bind_of_error {e : Error} (run : (x.run built).run s = .error e s') :
    ((x >>= f).run built).run s = .error e s' := by
  rw [StateT.run_bind, EStateM.run_bind, run]

theorem Building.run_liftM (x : EStateM Error σ α) (built : Built) (s : σ) :
    ((liftM x : Building σ α).run built).run s = match x.run s with
      | .ok a s' => .ok (a, built) s'
      | .error e s' => .error e s' := by
  change (x >>= fun a => pure (a, built)).run s = _
  rw [EStateM.run_bind]
  cases x.run s <;> rfl

theorem Building.run_inContext (doing : String) (x : Building σ α) (built : Built) (s : σ) :
    ((Tools.inContext doing x).run built).run s = match (x.run built).run s with
      | .ok result s' => .ok result s'
      | .error e s' => .error (.context doing e) s' := by
  change (withContext doing (x.run built)).run s = _
  rw [run_withContext]
  cases (x.run built).run s <;> rfl

theorem Building.liftM_withContext (doing : String) (x : EStateM Error σ α) :
    (liftM (withContext doing x) : Building σ α) = Tools.inContext doing (liftM x) := by
  funext built s
  change ((liftM (withContext doing x) : Building σ α).run built).run s =
    ((Tools.inContext doing (liftM x) : Building σ α).run built).run s
  rw [run_liftM, run_inContext, run_liftM, run_withContext]
  cases x.run s <;> rfl

end Runs

/-- From a world and a log, the first action does what the second one does and notes it, with an
    answer that satisfies `Q` or with a failure and a log that satisfies `E`. -/
inductive Logged {α : Type} (x : Building (World × List Request) α) (y : BuildM α) (built : Built)
    (w : World) (log : List Request) (Q : α → Built → World → List Request → Prop)
    (E : List Request → Prop) : Prop where
  | ok {a built' w' log'} (noting : (x.run built).run (w, log) = .ok (a, built') (w', log'))
      (plain : (y.run built).run w = .ok (a, built') w') (answer : Q a built' w' log')
  | error {e w' log'} (noting : (x.run built).run (w, log) = .error e (w', log'))
      (plain : (y.run built).run w = .error e w') (failure : E log')

namespace Logged

open Building

variable {α β : Type} {x : Building (World × List Request) α} {y : BuildM α}
  {f : α → Building (World × List Request) β} {g : α → BuildM β} {built : Built} {w : World}
  {log : List Request} {P Q : α → Built → World → List Request → Prop}
  {R : β → Built → World → List Request → Prop} {E : List Request → Prop}

theorem mono (h : Logged x y built w log P E)
    (answer : ∀ a built' w' log', P a built' w' log' → Q a built' w' log') :
    Logged x y built w log Q E := by
  cases h with
  | ok noting plain outcome => exact .ok noting plain (answer _ _ _ _ outcome)
  | error noting plain outcome => exact .error noting plain outcome

theorem pure {a : α} (h : Q a built w log) :
    Logged (Pure.pure a) (Pure.pure a) built w log Q E := .ok rfl rfl h

theorem throw {e : Error} (h : E log) :
    Logged (MonadExcept.throw e) (MonadExcept.throw e : BuildM α) built w log Q E :=
  .error rfl rfl h

theorem bind (first : Logged x y built w log P E)
    (next : ∀ a built' w' log', P a built' w' log' → Logged (f a) (g a) built' w' log' R E) :
    Logged (x >>= f) (y >>= g) built w log R E := by
  cases first with
  | error noting plain failure =>
    exact .error (run_bind_of_error noting) (run_bind_of_error plain) failure
  | ok noting plain answer =>
    have noting := run_bind_of_ok (f := f) noting
    have plain := run_bind_of_ok (f := g) plain
    cases next _ _ _ _ answer with
    | ok noting' plain' answer => exact .ok (noting.trans noting') (plain.trans plain') answer
    | error noting' plain' failure =>
      exact .error (noting.trans noting') (plain.trans plain') failure

theorem inContext {doing : String} (h : Logged x y built w log Q E) :
    Logged (Tools.inContext doing x) (Tools.inContext doing y) built w log Q E := by
  have noting' := run_inContext doing x built (w, log)
  have plain' := run_inContext doing y built w
  cases h with
  | ok noting plain answer =>
    rw [noting] at noting'
    rw [plain] at plain'
    exact .ok noting' plain' answer
  | error noting plain failure =>
    rw [noting] at noting'
    rw [plain] at plain'
    exact .error noting' plain' failure

variable {r : Resolver} {bootstrap : Store}

/-- An action on the world, with which nothing is asked for. -/
theorem act {x : StoreM α} (ok : ∀ a w', x.run w = .ok a w' → Q a built w' log) (error : E log) :
    Logged (liftM ((Tools.noting r bootstrap).act x)) (liftM x) built w log Q E := by
  have visiting := StoreM.run_visiting x w log
  have noting := run_liftM (StoreM.visiting x) built (w, log)
  have plain := run_liftM x built w
  rw [visiting] at noting
  cases run : x.run w with
  | ok a w' =>
    rw [run] at noting plain
    exact .ok noting plain (ok a w' run)
  | error e w' =>
    rw [run] at noting plain
    exact .error noting plain error

theorem ask {x : StoreM α} {request : Except Error α → Request}
    (ok : ∀ a w', x.run w = .ok a w' → Q a built w' (log ++ [request (.ok a)]))
    (error : ∀ e, E (log ++ [request (.error e)])) :
    Logged (liftM (Tools.noted x request)) (liftM x) built w log Q E := by
  have noting := run_liftM (Tools.noted x request) built (w, log)
  have plain := run_liftM x built w
  rw [Tools.run_noted] at noting
  cases run : x.run w with
  | ok a w' =>
    rw [run] at noting plain
    exact .ok noting plain (ok a w' run)
  | error e w' =>
    rw [run] at noting plain
    exact .error noting plain (error e)

end Logged

/-! ## Resolving -/

namespace Resolver

variable {r : Resolver} {bootstrap : Store} {w : World}

theorem run_resolveAll (r : Resolver) (bootstrap : Store) (entries : List Bytes) (w : World) :
    (r.resolveAll entries bootstrap).run w =
      ((Tools.plain r bootstrap).resolveAll r (w.entryCount + 2) entries).run w := by
  have current : (getThe World : StoreM World).run w = .ok w w := rfl
  have node : (Tools.plain r bootstrap).node r (w.entryCount + 2) [] =
      r.node bootstrap (w.entryCount + 2) [] :=
    funext fun id => Tools.node_plain r bootstrap _ [] id
  unfold Tools.resolveAll
  rw [run_run', resolveAll, EStateM.run_bind, current, node]
  dsimp only
  rw [EStateM.run_bind]
  cases ((entries.mapM (r.node bootstrap (w.entryCount + 2) [])).run .empty).run w <;> rfl

/-- Resolving one record is resolving a list of one. -/
theorem run_resolveAll_singleton (entry : Bytes) (w : World) :
    (r.resolveAll [entry] bootstrap).run w = match (r.resolve entry bootstrap).run w with
      | .ok s w' => .ok [s] w'
      | .error e w' => .error e w' := by
  rw [run_resolveAll, run_resolve, Tools.resolveAll, run_run', run_run', List.mapM_cons,
    List.mapM_nil, Tools.node_plain, StateT.run_bind, EStateM.run_bind]
  cases ((r.node bootstrap (w.entryCount + 2) [] entry).run .empty).run w <;> rfl

/-- What is shown of the walk from no stores and an empty log holds of resolving, and what it asks
    for is noted. -/
theorem resolveNoting_of_logged {entries : List Bytes}
    {Q : List Store → Built → World → List Request → Prop} {E : List Request → Prop}
    (walk : Logged (entries.mapM ((Tools.noting r bootstrap).node r (w.entryCount + 2) []))
      (entries.mapM ((Tools.plain r bootstrap).node r (w.entryCount + 2) [])) .empty w [] Q E) :
    ∃ outcome log start, (r.resolveNoting entries bootstrap).run w = .ok (outcome, log) start ∧
      (attempt (r.resolveAll entries bootstrap)).run w = .ok outcome start ∧
      match outcome with
      | .ok stores => ∃ built, Q stores built start log
      | .error _ => E log := by
  have current : (getThe World : StoreM World).run w = .ok w w := rfl
  have noted := run_run' (entries.mapM ((Tools.noting r bootstrap).node r (w.entryCount + 2) []))
    .empty (w, [])
  have resolved := run_resolveAll r bootstrap entries w
  rw [Tools.resolveAll, run_run'] at resolved
  rw [resolveNoting, EStateM.run_bind, current]
  dsimp only
  rw [VisitM.run_observe, Tools.resolveAll, run_attempt]
  cases walk with
  | ok noting plain answer =>
    rw [noting] at noted
    rw [plain] at resolved
    rw [noted, resolved]
    exact ⟨_, _, _, rfl, rfl, _, answer⟩
  | error noting plain failure =>
    rw [noting] at noted
    rw [plain] at resolved
    rw [noted, resolved]
    exact ⟨_, _, _, rfl, rfl, failure⟩

end Resolver

end StoreGraph
