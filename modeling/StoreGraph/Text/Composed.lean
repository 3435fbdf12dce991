import StoreGraph.Text.CombiningTable

/-! # Composed text

The same text can be written in several ways: a letter with marks as one character or as several,
and marks that do not touch each other in any order. `composed` takes all characters apart, puts the
marks behind each letter in the order of their classes, and composes whatever makes up one
character.
-/

namespace StoreGraph.Text

/-- The class of a mark, or zero for characters that are not moved. -/
def combiningClass (c : Char) : Nat :=
  match combiningClasses.find? fun (_, ranges) => inRanges ranges c with
  | some (value, _) => value
  | none => 0

/-- Is this one of the Korean syllables that are composed of two or three letters? -/
def isSyllable (c : Char) : Bool := decide (0xAC00 ≤ c.toNat) && decide (c.toNat ≤ 0xD7A3)

/-- The letters of a Korean syllable. Syllables are ordered by their 19 initial, 21 medial and 27
    final letters, of which the last may be missing. -/
def syllableLetters (c : Char) : List Char :=
  let index := c.toNat - 0xAC00
  let pair := [Char.ofNat (0x1100 + index / 588), Char.ofNat (0x1161 + index % 588 / 28)]
  if index % 28 = 0 then pair else pair ++ [Char.ofNat (0x11A7 + index % 28)]

/-- The Korean syllable of an initial and a medial letter, or of a syllable and a final letter. -/
def syllable? (a b : Char) : Option Char :=
  if 0x1100 ≤ a.toNat ∧ a.toNat ≤ 0x1112 ∧ 0x1161 ≤ b.toNat ∧ b.toNat ≤ 0x1175 then
    some (Char.ofNat (0xAC00 + (a.toNat - 0x1100) * 588 + (b.toNat - 0x1161) * 28))
  else if isSyllable a ∧ (a.toNat - 0xAC00) % 28 = 0 ∧ 0x11A8 ≤ b.toNat ∧ b.toNat ≤ 0x11C2 then
    some (Char.ofNat (a.toNat + (b.toNat - 0x11A7)))
  else none

/-- Characters that are taken apart, and what they are taken apart into. -/
def decompositions : List Image := composites ++ replacedChars

/-- The characters that make up a character. -/
def decomposed (c : Char) : List Char :=
  if isSyllable c then syllableLetters c
  else
    match decompositions.find? (·.covers c) with
    | some image => image.chars
    | none => [c]

/-- Put a character with its class before others, but behind the marks of lower classes in front of
    them. -/
def placeMark (mark : Nat × Char) : List (Nat × Char) → List (Nat × Char)
  | [] => [mark]
  | other :: rest =>
    if other.1 ≠ 0 ∧ other.1 < mark.1 then other :: placeMark mark rest else mark :: other :: rest

/-- Put the marks behind each letter in the order of their classes. -/
def orderMarks (cs : List Char) : List Char :=
  ((cs.map fun c => (combiningClass c, c)).foldr placeMark []).map (·.2)

/-- The character that is made up of two. -/
def compose? (a b : Char) : Option Char :=
  match syllable? a b with
  | some c => some c
  | none =>
    let whole := (decomposed a ++ [b]).map Char.toNat
    (composites.find? (·.value == whole)).map fun image => Char.ofNat image.first

/-- Compose a letter with what follows it, as far as it can be. The marks that stay behind the
    letter are given in reverse; a mark is not composed past one of its class. -/
def composeAfter (letter : Char) (marks : List Char) : List Char → List Char
  | [] => letter :: marks.reverse
  | c :: rest =>
    let isBlocked := marks.head?.any fun mark => combiningClass c ≤ combiningClass mark
    match if isBlocked then none else compose? letter c with
    | some whole => composeAfter whole marks rest
    | none =>
      if combiningClass c = 0 then letter :: marks.reverse ++ composeAfter c [] rest
      else composeAfter letter (c :: marks) rest

/-- A text with its characters composed and its marks in order. -/
def composed (cs : List Char) : List Char :=
  let ordered := orderMarks (cs.flatMap decomposed)
  let (marks, behind) :=
    (ordered.takeWhile (combiningClass · ≠ 0), ordered.dropWhile (combiningClass · ≠ 0))
  match behind with
  | [] => marks
  | letter :: rest => marks ++ composeAfter letter [] rest

end StoreGraph.Text
