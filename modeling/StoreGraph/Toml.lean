/-! # TOML documents

Documents as trees. A table lists its entries in the order in which they were written.
-/

namespace StoreGraph.Toml

/-- A floating-point number: `significand · 10 ^ exponent`, below zero if `negative`; or beyond all
    numbers, or none at all. -/
inductive Real where
  | finite (negative : Bool) (significand : Nat) (exponent : Int)
  | infinite (negative : Bool)
  | nan
  deriving Repr, DecidableEq

inductive Value where
  | text (value : String)
  | integer (value : Int)
  | real (value : Real)
  | bool (value : Bool)
  /-- A date, a time of day, or both, as it is written. -/
  | datetime (written : String)
  | array (items : List Value)
  | table (entries : List (String × Value))
  deriving Repr, Inhabited

def lookup? {α : Type} (name : String) (entries : List (String × α)) : Option α :=
  (entries.find? (·.1 = name)).map (·.2)

/-- Why a text is not a TOML document. -/
inductive Fault where
  /-- The text ends within the document. -/
  | ended
  /-- A character stands where the grammar has no place for it. -/
  | unexpected (found : Char)
  /-- An escape stands for no character. -/
  | badEscape
  /-- A value is neither a number nor a date nor a word that means something. -/
  | badScalar (written : String)
  /-- A name is given a value, or a table its header, a second time. -/
  | duplicate (name : String)
  /-- A name is used as that of a table, and is not. -/
  | notATable (name : String)
  /-- Arrays, tables or names are nested too deeply. -/
  | tooDeep
  deriving Repr, DecidableEq

namespace Fault

def message : Fault → String
  | ended => "unexpected end of text"
  | unexpected found => s!"unexpected character {found}"
  | badEscape => "invalid escape"
  | badScalar written => s!"invalid value {written}"
  | duplicate name => s!"duplicate key {name}"
  | notATable name => s!"{name} is not a table"
  | tooDeep => "recursion limit exceeded"

end Fault

end StoreGraph.Toml
