import StoreGraph.World

/-! # Actions on the world

Operations on live stores are actions: they read and change the world and either answer or fail. A
failing action keeps the changes it made before it failed. An enumeration calls a visitor, whose own
state `τ` travels beside the world.
-/

namespace StoreGraph

/-- An action on the world. -/
abbrev StoreM := EStateM Error World

/-- An action on the world and on the state of a visitor. -/
abbrev VisitM (τ : Type) := EStateM Error (World × τ)

/-- Run to the end, and answer with how it went. -/
def attempt {σ α : Type} (x : EStateM Error σ α) : EStateM Error σ (Except Error α) := fun s =>
  match x s with
  | .ok a s => .ok (.ok a) s
  | .error e s => .ok (.error e) s

/-- State what was being done when a failure arises. -/
def withContext {σ α : Type} (doing : String) (x : EStateM Error σ α) :
    EStateM Error σ α := fun s =>
  match x s with
  | .ok a s => .ok a s
  | .error e s => .error (.context doing e) s

/-- Answer or fail as a given outcome says. -/
def ofExcept {σ α : Type} : Except Error α → EStateM Error σ α
  | .ok a => pure a
  | .error e => throw e

/-- Run every action, whatever becomes of the others, and answer with the failures in order, each
    under the description of its action. -/
def gatherFailures {σ : Type} : List (String × EStateM Error σ Unit) → EStateM Error σ (List Error)
  | [] => pure []
  | (doing, x) :: rest => do
    match ← attempt x with
    | .ok () => gatherFailures rest
    | .error e => return .context doing e :: (← gatherFailures rest)

/-- Describe the actions of a list by what they do and by their position. -/
def numbered {α : Type _} (doing : String) (xs : List α) : List (String × α) :=
  xs.zipIdx.map fun (x, index) => (s!"{doing} {index}", x)

namespace StoreM

/-- An action on the world, taken inside an enumeration. -/
def visiting {τ α : Type} (x : StoreM α) : VisitM τ α := fun (w, t) =>
  match x w with
  | .ok a w => .ok a (w, t)
  | .error e w => .error e (w, t)

def report (event : Event) : StoreM Unit :=
  modify fun w => { w with events := w.events ++ [event] }

def count (f : Counters → Counters) : StoreM Unit :=
  modify fun w => { w with counters := f w.counters }

def draw : StoreM UInt64 := do
  let w ← get
  set { w with drawn := w.drawn + 1 }
  return w.randomness w.drawn

end StoreM

namespace VisitM

/-- Run an enumeration from a state of the visitor, and answer with how it went and with the state
    in which the visitor was left. -/
def observe {τ α : Type} (start : τ) (x : VisitM τ α) : StoreM (Except Error α × τ) := fun w =>
  match x (w, start) with
  | .ok a (w, t) => .ok (.ok a, t) w
  | .error e (w, t) => .ok (.error e, t) w

/-- Run an enumeration from a state of the visitor, and answer with the state in which the visitor
    was left. -/
def collect {τ : Type} (start : τ) (x : VisitM τ Unit) : StoreM τ := fun w =>
  match x (w, start) with
  | .ok () (w, t) => .ok t w
  | .error e (w, _) => .error e w

/-- Run an enumeration whose visitor has a second state beside the first one. -/
def withState {τ υ α : Type} (start : υ) (x : VisitM (τ × υ) α) :
    VisitM τ (Except Error α × υ) := fun (w, t) =>
  match x (w, t, start) with
  | .ok a (w, t, u) => .ok (.ok a, u) (w, t)
  | .error e (w, t, u) => .ok (.error e, u) (w, t)

/-- An action of a visitor, taken where a second state travels beside its own. -/
def besides {τ υ α : Type} (x : VisitM τ α) : VisitM (τ × υ) α := fun (w, t, u) =>
  match x (w, t) with
  | .ok a (w, t) => .ok a (w, t, u)
  | .error e (w, t) => .error e (w, t, u)

def note {τ : Type} (f : τ → τ) : VisitM τ Unit := modify fun (w, t) => (w, f t)

end VisitM

end StoreGraph
