/-! # Punycode

Names with characters beyond ASCII, written in ASCII: first the ASCII characters, then the positions
and values of the others as a run of numbers in base 36 whose digits have varying weights.
-/

namespace StoreGraph.Url.Punycode

def digitChar (value : Nat) : Char :=
  Char.ofNat (if value < 26 then 'a'.toNat + value else '0'.toNat + (value - 26))

def digitValue? (c : Char) : Option Nat :=
  if 'a' ≤ c ∧ c ≤ 'z' then some (c.toNat - 'a'.toNat)
  else if 'A' ≤ c ∧ c ≤ 'Z' then some (c.toNat - 'A'.toNat)
  else if '0' ≤ c ∧ c ≤ '9' then some (c.toNat - '0'.toNat + 26)
  else none

/-- The threshold of the digit at a position, counted from one. -/
def threshold (bias position : Nat) : Nat := min 26 (max 1 (36 * position - bias))

/-- Divide a delta until it is small; the answer is the new bias. The first argument bounds the
    number of divisions. -/
def adaptLoop : Nat → Nat → Nat → Nat
  | 0, delta, k => k + 36 * delta / (delta + 38)
  | fuel + 1, delta, k =>
    if 455 < delta then adaptLoop fuel (delta / 35) (k + 36)
    else k + 36 * delta / (delta + 38)

/-- The bias after a delta, given the number of characters placed so far. -/
def adapt (delta placed : Nat) (first : Bool) : Nat :=
  let delta := if first then delta / 700 else delta / 2
  adaptLoop delta (delta + delta / placed) 0

/-- The digits of a number under a bias, from a position on. The second argument bounds how many
    there are. -/
def writeNumber (bias : Nat) : Nat → Nat → Nat → List Char
  | 0, _, _ => []
  | fuel + 1, position, n =>
    let t := threshold bias position
    if n < t then [digitChar n]
    else
      digitChar (t + (n - t) % (36 - t))
        :: writeNumber bias fuel (position + 1) ((n - t) / (36 - t))

/-- Where an encoder stands. -/
structure Progress where
  output : List Char
  /-- The characters up to this value are placed. -/
  next : Nat
  delta : Nat
  bias : Nat
  placed : Nat

/-- Place every occurrence of a character. -/
def placeAll (basic : Nat) (name : List Char) (p : Progress) (value : Nat) : Progress :=
  let p := { p with delta := p.delta + (value - p.next) * (p.placed + 1), next := value }
  let p := name.foldl (fun p c =>
    if c.toNat < value then { p with delta := p.delta + 1 }
    else if c.toNat = value then
      { p with
        output := p.output ++ writeNumber p.bias (p.delta + 1) 1 p.delta
        bias := adapt p.delta (p.placed + 1) (p.placed == basic)
        delta := 0
        placed := p.placed + 1 }
    else p) p
  { p with delta := p.delta + 1, next := p.next + 1 }

def encode (name : List Char) : List Char :=
  let basic := name.filter (·.toNat < 0x80)
  let others := ((name.map Char.toNat).filter (0x80 ≤ ·)).eraseDups.mergeSort
  let start : Progress :=
    { output := if basic.isEmpty then [] else basic ++ ['-']
      next := 0x80, delta := 0, bias := 72, placed := basic.length }
  (others.foldl (placeAll basic.length name) start).output

/-- Read the digits of one number, from a position and with a weight; the answer is the number with
    the digits behind it. -/
def readNumber (bias : Nat) : Nat → Nat → Nat → List Char → Option (Nat × List Char)
  | _, _, _, [] => none
  | position, weight, n, c :: rest => do
    let digit ← digitValue? c
    let n := n + digit * weight
    let t := threshold bias position
    if digit < t then some (n, rest) else readNumber bias (position + 1) (weight * (36 - t)) n rest

/-- Place the characters that numbers stand for. The first argument bounds the number of them. -/
def decodeLoop : Nat → (next index bias : Nat) → List Char → List Char → Option (List Char)
  | _, _, _, _, placed, [] => some placed
  | 0, _, _, _, _, _ => none
  | fuel + 1, next, index, bias, placed, digits => do
    let (delta, rest) ← readNumber bias 1 1 0 digits
    let count := placed.length + 1
    let total := index + delta
    let next := next + total / count
    let position := total % count
    if 0x10FFFF < next ∨ (0xD800 ≤ next ∧ next < 0xE000) then none
    else
      let bias := adapt delta count (index == 0)
      decodeLoop fuel next (position + 1) bias
        (placed.take position ++ Char.ofNat next :: placed.drop position) rest

/-- The name that a text in ASCII stands for. The last hyphen divides the ASCII characters from the
    digits; it is not written where there are no ASCII characters. -/
def decode? (cs : List Char) : Option (List Char) :=
  let (behind, before) := (cs.reverse.takeWhile (· != '-'), cs.reverse.dropWhile (· != '-'))
  match before with
  | [] => decodeLoop cs.length 0x80 0 72 [] cs
  | [_] => none
  | _ :: basic => decodeLoop behind.length 0x80 0 72 basic.reverse behind.reverse

end StoreGraph.Url.Punycode
