import StoreGraph.Text.Digit
import StoreGraph.Text.Split

/-! # Tables of characters

Data on characters is written as lines of words with blanks between them, with hexadecimal digits
for characters. The word `41-5A` names a range of characters, and `41` a range of one. A word such
as `FB00:66.66` adds to a range the characters that stand for it, its image. All data on characters
in this library is that of version 17 of the Unicode standard.
-/

namespace StoreGraph.Text

def inRanges (ranges : List (Nat × Nat)) (c : Char) : Bool :=
  ranges.any fun (first, last) => decide (first ≤ c.toNat) && decide (c.toNat ≤ last)

def words (line : String) : List (List Char) :=
  (splitAtAll (· == ' ') line.toList).filter (!·.isEmpty)

/-- The range that a word names. -/
def readRange (word : List Char) : Nat × Nat :=
  match splitAtAll (· == '-') word with
  | [first, last] => (ofDigits 16 first, ofDigits 16 last)
  | _ => (ofDigits 16 word, ofDigits 16 word)

/-- The ranges that the lines of a table name. -/
def readRanges (lines : List String) : List (Nat × Nat) :=
  lines.flatMap fun line => (words line).map readRange

/-- A range of characters and what stands for it. -/
structure Image where
  first : Nat
  last : Nat
  value : List Nat
  deriving Repr, DecidableEq

namespace Image

def covers (image : Image) (c : Char) : Bool :=
  decide (image.first ≤ c.toNat) && decide (c.toNat ≤ image.last)

/-- The characters that stand for each character of the range. -/
def chars (image : Image) : List Char := image.value.map Char.ofNat

/-- The characters that stand for a character of the range, if they move along with it. -/
def shifted (image : Image) (c : Char) : List Char :=
  image.value.map fun n => Char.ofNat (n + (c.toNat - image.first))

/-- The range and the image that a word names. -/
def read (word : List Char) : Image :=
  let (range, value) := (word.takeWhile (· != ':'), (word.dropWhile (· != ':')).drop 1)
  let (first, last) := readRange range
  { first, last, value := (splitAtAll (· == '.') value).map (ofDigits 16) }

end Image

/-- The images that the lines of a table name. -/
def readImages (lines : List String) : List Image :=
  lines.flatMap fun line => (words line).map Image.read

end StoreGraph.Text
