/-! # Failures

Every store, every layer built over stores and the resolver report failure through one type, so that
"the key is absent" stays distinguishable from all other failures however deep stores are nested.

Main statements: `join?` joins failures without hiding a single one's identity, and a context never
changes what a failure is (`isNotFound_context`, `isConfiguration_context`).
-/

namespace StoreGraph

inductive Error where
  /-- The key is absent. Every store reports absence with exactly this. -/
  | notFound
  /-- Several independent failures of an operation that was spread over several stores. -/
  | aggregated (failures : List Error)
  /-- A store graph was described inconsistently. -/
  | configuration (detail : String)
  /-- No backend is registered for the scheme of a URL. -/
  | unsupportedScheme (scheme : String)
  /-- A record refers to itself, directly or through others. -/
  | cycleDetected (name : String)
  /-- Stored data contradicts itself. -/
  | corrupted (detail : String)
  | backend (detail : String)
  /-- Reading from the outside world failed. -/
  | io (detail : String)
  | serialization (detail : String)
  | deserialization (detail : String)
  /-- A failure together with what was being done when it arose. -/
  | context (doing : String) (cause : Error)
  deriving Repr, Inhabited

namespace Error

mutual

def message : Error → String
  | notFound => "key not found"
  | aggregated failures => "; ".intercalate (messages failures)
  | configuration detail => s!"configuration error: {detail}"
  | unsupportedScheme scheme => s!"unsupported storage scheme: {scheme}"
  | cycleDetected name => s!"cycle detected while resolving '{name}'"
  | corrupted detail => s!"data corruption detected: {detail}"
  | backend detail => s!"backend error: {detail}"
  | io detail => s!"I/O error: {detail}"
  | serialization detail => s!"serialization error: {detail}"
  | deserialization detail => s!"deserialization error: {detail}"
  | context doing cause => s!"{doing}: {message cause}"

def messages : List Error → List String
  | [] => []
  | failure :: rest => message failure :: messages rest

end

/-- Join collected failures: none for an empty list, and a single failure stays itself. -/
def join? : List Error → Option Error
  | [] => none
  | [failure] => some failure
  | failures => some (aggregated failures)

/-- Succeed if nothing was collected, and fail with the joined failures otherwise. -/
def ofFailures (failures : List Error) : Except Error Unit :=
  match join? failures with
  | none => .ok ()
  | some failure => .error failure

/-- Is this, under any contexts, the absence of a key? -/
def isNotFound : Error → Bool
  | notFound => true
  | context _ cause => isNotFound cause
  | _ => false

/-- Did this, under any contexts, arise from how a store graph is described? -/
def isConfiguration : Error → Bool
  | configuration _ | unsupportedScheme _ | cycleDetected _ => true
  | context _ cause => isConfiguration cause
  | _ => false

/-- The number of failures that were joined into this one. -/
def failureCount : Error → Nat
  | aggregated failures => failures.length
  | _ => 1

@[simp] theorem isNotFound_context (doing : String) (cause : Error) :
    (context doing cause).isNotFound = cause.isNotFound := rfl

@[simp] theorem isConfiguration_context (doing : String) (cause : Error) :
    (context doing cause).isConfiguration = cause.isConfiguration := rfl

theorem join?_eq_none_iff {failures : List Error} :
    join? failures = none ↔ failures = [] := by
  cases failures with
  | nil => simp [join?]
  | cons failure rest => cases rest <;> simp [join?]

end Error

end StoreGraph
