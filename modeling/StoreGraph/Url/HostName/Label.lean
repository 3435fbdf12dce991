import StoreGraph.Text.Composed
import StoreGraph.Url.HostName.DirectionTable
import StoreGraph.Url.HostName.JoiningTable
import StoreGraph.Url.HostName.MappingTable
import StoreGraph.Url.Punycode

/-! # Labels

The parts of a host name. A label with characters beyond ASCII is written in ASCII behind the
letters `xn` and two hyphens; what is written so must be a label that could not be written in
another way.
-/

namespace StoreGraph.Url.HostName

open Text

/-- What stands for a character in names: other characters, itself or nothing. Some characters
    cannot be held. -/
def mapChar? (c : Char) : Option (List Char) :=
  if inRanges refusedRanges c then none
  else if inRanges omittedRanges c then some []
  else
    let alternate (run : Image) : Bool := run.covers c && (c.toNat - run.first) % 2 == 0
    match (shiftedRuns.find? (·.covers c)).or (alternateRuns.find? alternate) with
    | some run => some (run.shifted c)
    | none =>
      match images.find? (·.covers c) with
      | some image => some image.chars
      | none => some [c]

def isAscii (c : Char) : Bool := decide (c.toNat < 0x80)

/-- The characters that a label written in ASCII stands for. Any other label stands for itself. -/
def readLabel? : List Char → Option (List Char)
  | 'x' :: 'n' :: '-' :: '-' :: rest =>
    if rest.all isAscii ∧ rest.length ≤ 2000 ∧ rest ≠ [] ∧ rest.getLast? ≠ some '-' then do
      let label ← Punycode.decode? rest
      if label.all (fun c => mapChar? c == some [c]) ∧ composed label = label then some label
      else none
    else none
  | label => some label

/-- A label in ASCII. -/
def writeLabel (label : List Char) : List Char :=
  if label.all isAscii then label else ['x', 'n', '-', '-'] ++ Punycode.encode label

/-- Does the first of the characters that is not transparent belong to one of the ranges? -/
def beginsWithin (ranges : List (Nat × Nat)) (cs : List Char) : Bool :=
  (cs.dropWhile (inRanges transparentRanges)).head?.any (inRanges ranges)

/-- Does each joiner stand where it has a meaning, given what is before it in reverse? Behind a mark
    that removes a vowel both joiners have one, and the one that divides letters has one also
    between letters that would be joined. -/
def joinersFit (before : List Char) : List Char → Bool
  | [] => true
  | c :: rest =>
    let behindVowelMark := before.head?.any (combiningClass · == 9)
    let fits :=
      if c.toNat = 0x200C then
        behindVowelMark ||
          (beginsWithin joinBehindRanges before && beginsWithin joinBeforeRanges rest)
      else if c.toNat = 0x200D then behindVowelMark
      else true
    fits && joinersFit (c :: before) rest

/-- Can a name hold the label? It begins with no mark, its joiners have a meaning, and unless it is
    in ASCII it is no longer than 1000 characters. -/
def isWellFormed (label : List Char) : Bool :=
  !label.head?.any (inRanges markRanges) && joinersFit [] label &&
    (label.all isAscii || decide (label.length ≤ 1000))

/-- The directions in which characters are written. -/
inductive Direction where
  | leftToRight
  | rightToLeft
  | arabicDigit
  | europeanDigit
  | neutral
  | attached
  deriving Repr, DecidableEq

namespace Direction

def of (c : Char) : Direction :=
  if inRanges rightToLeftRanges c then rightToLeft
  else if inRanges arabicDigitRanges c then arabicDigit
  else if inRanges europeanDigitRanges c then europeanDigit
  else if inRanges neutralRanges c then neutral
  else if inRanges attachedRanges c then attached
  else leftToRight

/-- Does a name with such a character mix directions? -/
def isMixing (direction : Direction) : Bool := direction == rightToLeft || direction == arabicDigit

/-- Do the directions of a label behind its first character end in one of those given, apart from
    marks, if there are others at all? -/
def endWith (ends behind : List Direction) : Bool :=
  (behind.reverse.dropWhile (· == attached)).head?.all ends.contains

/-- Do the directions of a label fit each other, so that it reads the same in any surroundings? -/
def fit : List Direction → Bool
  | [] => true
  | leftToRight :: behind =>
    !behind.any isMixing && endWith [leftToRight, europeanDigit] behind
  | rightToLeft :: behind =>
    !behind.contains leftToRight && !(behind.contains arabicDigit && behind.contains europeanDigit)
      && endWith [rightToLeft, arabicDigit, europeanDigit] behind
  | _ => false

end Direction

end StoreGraph.Url.HostName
