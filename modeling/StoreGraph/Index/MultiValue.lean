import StoreGraph.Json.Parser
import StoreGraph.Json.Printer
import StoreGraph.Store

/-! # Multi-value indexes

An index from secondary keys to lists of primary keys. The store keeps the list, as JSON text, under
the secondary key, and no entry for an empty list.
-/

namespace StoreGraph

/-- An index with a list of primary keys for each secondary key. -/
structure MultiValueIndex where
  store : Store

namespace MultiValueIndex

def byte? (document : Json) : Option UInt8 :=
  match document.nat? with
  | some n => if n < 256 then some (UInt8.ofNat n) else none
  | none => none

/-- The byte string that a document is, if it is a list of bytes. -/
def bytes? (document : Json) : Option Bytes := do (← document.items?).mapM byte?

/-- The list of primary keys that a document is, if it is a list of byte strings. -/
def primaries? (document : Json) : Option (List Bytes) := do (← document.items?).mapM bytes?

/-- The document that a list of primary keys is. -/
def toJson (primaries : List Bytes) : Json :=
  .array (primaries.map fun key => .array (key.map fun b => .ofNat b.toNat))

/-- Read a stored list of primary keys. -/
def decode (raw : Bytes) : Except String (List Bytes) :=
  match Json.parse raw with
  | .error fault => .error fault.message
  | .ok document =>
    match primaries? document with
    | some primaries => .ok primaries
    | none => .error "expected a list of byte lists"

def load (index : MultiValueIndex) (secondary : Bytes) : StoreM (List Bytes) := do
  match ← index.store.find? secondary with
  | none => return []
  | some raw =>
    match decode raw with
    | .ok primaries => return primaries
    | .error detail =>
      throw (.deserialization s!"primary keys of '{secondary.lossyText}': {detail}")

def save (index : MultiValueIndex) (secondary : Bytes) (primaries : List Bytes) : StoreM Unit :=
  if primaries.isEmpty then index.store.del secondary
  else index.store.put secondary (toJson primaries).toBytes

/-- Link a secondary key to a further primary key; a link that exists is left as it is. -/
def link (index : MultiValueIndex) (primary secondary : Bytes) : StoreM Unit := do
  let primaries ← index.load secondary
  if primaries.contains primary then return
  index.save secondary (primaries ++ [primary])

/-- Take a primary key from a secondary key; a link that does not exist is ignored. -/
def unlink (index : MultiValueIndex) (primary secondary : Bytes) : StoreM Unit := do
  let primaries ← index.load secondary
  let left := primaries.filter (· != primary)
  if left.length = primaries.length then return
  StoreM.report (.primaryUnlinked secondary left.length)
  index.save secondary left

/-- The primary keys that a secondary key is linked to, in the order in which they were linked. -/
def find (index : MultiValueIndex) (secondary : Bytes) : StoreM (List Bytes) := index.load secondary

/-- Show every linked pair, primary key first: secondary keys in the order in which the store shows
    them, and the primary keys of each in the order in which they were linked. -/
def iterate {τ : Type} (index : MultiValueIndex) (visit : Bytes → Bytes → VisitM τ Unit) :
    VisitM τ Unit :=
  index.store.keys fun secondary => do
    let primaries ← StoreM.visiting (index.load secondary)
    primaries.forM fun primary => visit primary secondary

end MultiValueIndex

end StoreGraph
