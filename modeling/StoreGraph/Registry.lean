import StoreGraph.Store
import StoreGraph.Text.Lowercase
import StoreGraph.Text.Quoted
import StoreGraph.Url.Parser

/-! # Registries of backends

A registry tells, for each URL scheme, how a backend is created from a URL. Every creation builds a
new store unless the factory hands out one that exists.
-/

namespace StoreGraph

/-- Creates a backend from its URL. -/
abbrev StoreFactory := Url → StoreM Store

structure Registry where
  factories : SortedMap String StoreFactory := .empty

namespace Registry

instance : Inhabited Registry := ⟨{}⟩

def empty : Registry := {}

/-- Set the factory of a scheme; schemes are told apart in lower case. -/
def register (r : Registry) (scheme : String) (factory : StoreFactory) : Registry :=
  ⟨r.factories.insert (Text.lowercase scheme) factory⟩

/-- The registry of the backends that need nothing outside: `memory` and `nop`. -/
def withDefaults : Registry :=
  (empty.register "memory" fun _ => Store.newMemory).register "nop" fun _ => return .nop

def supports (r : Registry) (scheme : String) : Bool := r.factories.contains (Text.lowercase scheme)

/-- The schemes that have factories, in order. -/
def schemes (r : Registry) : List String := r.factories.keys

def create (r : Registry) (rawUrl : String) : StoreM Store := do
  match Url.parse rawUrl with
  | .error fault => throw (.configuration s!"invalid storage URL '{rawUrl}': {fault.message}")
  | .ok url =>
    match r.factories.get? url.scheme with
    | none => throw (.unsupportedScheme url.scheme)
    | some factory =>
      StoreM.report (.backendCreating url.scheme)
      factory url

def describe (r : Registry) : String :=
  let schemes := ", ".intercalate (r.schemes.map Text.quoted)
  s!"BackendRegistry \x7b schemes: [{schemes}] \x7d"

end Registry

end StoreGraph
