import StoreGraph.Json
import StoreGraph.Toml

/-! # TOML values as JSON documents

Every TOML value has a JSON document that stands for it. Numbers that JSON lacks become `null`, and
dates an object that holds the written form.
-/

namespace StoreGraph.Toml

/-- The member that holds the written form of a date. -/
def datetimeMember : String := "datetime"

def realToJson : Real → Json
  | .finite negative significand exponent => .number (.real negative significand exponent)
  | .infinite _ | .nan => .null

mutual

def Value.toJson : Value → Json
  | .text value => .text value
  | .integer value => .number (.whole value)
  | .real value => realToJson value
  | .bool value => .bool value
  | .datetime written => .object [(datetimeMember, .text written)]
  | .array items => .array (itemsToJson items)
  | .table entries => .object (entriesToJson entries)

/-- The items of an array as documents. -/
def itemsToJson : List Value → List Json
  | [] => []
  | item :: rest => item.toJson :: itemsToJson rest

/-- The entries of a table as members of a document. -/
def entriesToJson : List (String × Value) → List (String × Json)
  | [] => []
  | (name, value) :: rest => (name, value.toJson) :: entriesToJson rest

end

end StoreGraph.Toml
