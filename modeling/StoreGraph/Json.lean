import StoreGraph.Bytes

/-! # JSON documents

Documents as trees. An object lists its members as they were written; of members with the same name
the last one counts.
-/

namespace StoreGraph

namespace Json

/-- A number. Whole numbers of at most 64 bits are kept as such; any other number by the digits and
    the power of ten that it was written with. -/
inductive Number where
  /-- A number written without fraction and exponent that fits a signed or unsigned 64-bit word. -/
  | whole (value : Int)
  /-- Any other number: `significand · 10 ^ exponent`, below zero if `negative`. -/
  | real (negative : Bool) (significand : Nat) (exponent : Int)
  deriving Repr, DecidableEq

end Json

inductive Json where
  | null
  | bool (value : Bool)
  | number (value : Json.Number)
  | text (value : String)
  | array (items : List Json)
  | object (members : List (String × Json))
  deriving Repr, Inhabited

namespace Json

def ofNat (n : Nat) : Json := .number (.whole n)

/-- The member of a given name, in a list of members; the last one of that name counts. -/
def lookup? (name : String) : List (String × Json) → Option Json
  | [] => none
  | (n, value) :: rest =>
    match lookup? name rest with
    | some later => some later
    | none => if n = name then some value else none

/-- The member of a given name, in an object; nothing else has members. -/
def member? (name : String) : Json → Option Json
  | object members => lookup? name members
  | _ => none

def text? : Json → Option String
  | text value => some value
  | _ => none

def nat? : Json → Option Nat
  | number (.whole (.ofNat n)) => some n
  | _ => none

def items? : Json → Option (List Json)
  | array items => some items
  | _ => none

end Json

end StoreGraph
