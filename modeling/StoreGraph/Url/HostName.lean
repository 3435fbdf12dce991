import StoreGraph.Bytes
import StoreGraph.Url.HostName.Label

/-! # Host names

Host names with characters of any language are written in ASCII, label by label, once their
characters are put into the one form in which names hold them.
-/

namespace StoreGraph.Url

/-- Is this a character that no host may hold? -/
def isForbiddenInHost (c : Char) : Bool :=
  c ∈ ['\x00', '\t', '\n', '\r', ' ', '#', '/', ':', '<', '>', '?', '@', '[', '\\', ']', '^', '|']

/-- Is this a character that no name may hold? -/
def isForbiddenInName (c : Char) : Bool :=
  isForbiddenInHost c || c == '%' || decide (c.toNat < 0x20) || c.toNat == 0x7F

namespace HostName

/-- The labels of a name, in any language. -/
def labels? (cs : List Char) : Option (List (List Char)) := do
  let name := Text.composed (← cs.mapM mapChar?).flatten
  if name.any isForbiddenInName then none
  else (Text.splitAtAll (· == '.') name).mapM readLabel?

/-- Can the labels make up a name? If directions are mixed in one of them, those of all must fit. -/
def canStandTogether (labels : List (List Char)) : Bool :=
  let directions := labels.map (·.map Direction.of)
  labels.all isWellFormed &&
    (!directions.any (·.any Direction.isMixing) || directions.all Direction.fit)

/-- A name in ASCII. -/
def ascii? (cs : List Char) : Option (List Char) := do
  let labels ← labels? cs
  if canStandTogether labels then some (['.'].intercalate (labels.map writeLabel)) else none

end HostName

end StoreGraph.Url
