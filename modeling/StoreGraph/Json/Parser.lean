import StoreGraph.Json.Number

/-! # Reading JSON text

A reader takes a document from the front of a list of characters and returns the characters behind
it. Arrays and objects may be nested 127 deep. Readers of strings, arrays and objects are given a
bound on the number of their parts, which the length of the whole text never falls short of.
-/

namespace StoreGraph.Json

/-- Why a text is not a JSON document. -/
inductive Fault where
  /-- The bytes are not well-formed UTF-8. -/
  | notText
  /-- The text ends within the document. -/
  | ended
  /-- A character stands where the grammar has no place for it. -/
  | unexpected (found : Char)
  /-- An escape stands for no character. -/
  | badEscape
  | outOfRange
  /-- Arrays and objects are nested too deeply. -/
  | tooDeep
  /-- Something follows the document. -/
  | trailing (found : Char)
  deriving Repr, DecidableEq

namespace Fault

def message : Fault → String
  | notText => "invalid UTF-8"
  | ended => "unexpected end of text"
  | unexpected found => s!"unexpected character {found}"
  | badEscape => "invalid escape"
  | outOfRange => "number out of range"
  | tooDeep => "recursion limit exceeded"
  | trailing found => s!"trailing character {found}"

end Fault

/-- Takes a value from the front of a text, or finds a fault. -/
abbrev Reader (α : Type) := List Char → Except Fault (α × List Char)

/-- Is this a character that may stand between two parts of a document? -/
def isBlank (c : Char) : Bool := c == ' ' || c == '\n' || c == '\t' || c == '\r'

/-- Pass over what may stand between two parts of a document. -/
def skipBlank (cs : List Char) : List Char := cs.dropWhile isBlank

/-- The fault of a text that does not go on as it has to. -/
def mismatch : List Char → Fault
  | [] => .ended
  | c :: _ => .unexpected c

/-- Pass over characters that have to come next. -/
def expect (word : List Char) : Reader Unit := fun cs =>
  match word, cs with
  | [], cs => .ok ((), cs)
  | w :: word, c :: cs => if w = c then expect word cs else .error (.unexpected c)
  | _ :: _, [] => .error .ended

def readHex4 : Reader Nat
  | a :: b :: c :: d :: rest =>
    if [a, b, c, d].all (Text.isDigitOf 16) then .ok (Text.ofDigits 16 [a, b, c, d], rest)
    else .error .badEscape
  | _ => .error .ended

/-- The character of a `\u` escape, behind its first two characters. A character beyond U+FFFF takes
    two escapes, one for each half. -/
def readUnicodeEscape : Reader Char := fun cs => do
  let (unit, rest) ← readHex4 cs
  if unit < 0xD800 ∨ 0xE000 ≤ unit then return (Char.ofNat unit, rest)
  else if 0xDC00 ≤ unit then throw .badEscape
  else
    match rest with
    | '\\' :: 'u' :: rest =>
      let (low, rest) ← readHex4 rest
      if 0xDC00 ≤ low ∧ low < 0xE000 then
        return (Char.ofNat (0x10000 + (unit - 0xD800) * 0x400 + (low - 0xDC00)), rest)
      else throw .badEscape
    | _ => throw .badEscape

/-- The character of an escape, behind the backslash. -/
def readEscape : Reader Char
  | '"' :: rest => .ok ('"', rest)
  | '\\' :: rest => .ok ('\\', rest)
  | '/' :: rest => .ok ('/', rest)
  | 'b' :: rest => .ok ('\x08', rest)
  | 'f' :: rest => .ok ('\x0c', rest)
  | 'n' :: rest => .ok ('\n', rest)
  | 'r' :: rest => .ok ('\r', rest)
  | 't' :: rest => .ok ('\t', rest)
  | 'u' :: rest => readUnicodeEscape rest
  | [] => .error .ended
  | _ :: _ => .error .badEscape

/-- The characters of a string up to its closing quote, which is passed over. The first argument
    bounds the number of characters. -/
def readString : Nat → Reader (List Char)
  | 0, _ => .error .ended
  | _ + 1, [] => .error .ended
  | fuel + 1, c :: rest =>
    if c = '"' then .ok ([], rest)
    else if c = '\\' then do
      let (escaped, rest) ← readEscape rest
      let (more, rest) ← readString fuel rest
      return (escaped :: more, rest)
    else if c.toNat < 0x20 then .error (.unexpected c)
    else do
      let (more, rest) ← readString fuel rest
      return (c :: more, rest)

def readDigits : Reader (List Char) := fun cs =>
  match cs.takeWhile Text.isDecimal with
  | [] => .error (mismatch cs)
  | digits => .ok (digits, cs.dropWhile Text.isDecimal)

/-- The digits before the point: a zero stands alone. -/
def readWhole : Reader (List Char) := fun cs => do
  let (digits, rest) ← readDigits cs
  match digits with
  | '0' :: c :: _ => throw (.unexpected c)
  | _ => return (digits, rest)

/-- The point and the digits behind it, if there is a point. -/
def readFraction : Reader (Option (List Char))
  | '.' :: rest => do
    let (digits, rest) ← readDigits rest
    return (some digits, rest)
  | cs => .ok (none, cs)

/-- The exponent, if there is one: its sign and its digits. -/
def readExponent : Reader (Option (Bool × List Char))
  | c :: rest =>
    if c = 'e' ∨ c = 'E' then do
      let (negative, rest) := match rest with
        | '-' :: rest => (true, rest)
        | '+' :: rest => (false, rest)
        | rest => (false, rest)
      let (digits, rest) ← readDigits rest
      return (some (negative, digits), rest)
    else .ok (none, c :: rest)
  | [] => .ok (none, [])

def readNumber : Reader Number := fun cs => do
  let (negative, rest) := match cs with
    | '-' :: rest => (true, rest)
    | cs => (false, cs)
  let (whole, rest) ← readWhole rest
  let (fraction, rest) ← readFraction rest
  let (exponent, rest) ← readExponent rest
  match Numeral.value? { negative, whole, fraction, exponent } with
  | some value => return (value, rest)
  | none => throw .outOfRange

/-- One or more items with commas between them, up to the closing character, which is passed over.
    The first argument bounds the number of items. -/
def readItems {α : Type} (item : Reader α) (closing : Char) : Nat → Reader (List α)
  | 0, _ => .error .ended
  | fuel + 1, cs => do
    let (first, rest) ← item cs
    match skipBlank rest with
    | [] => throw .ended
    | c :: rest =>
      if c = closing then return ([first], rest)
      else if c = ',' then
        let (more, rest) ← readItems item closing fuel rest
        return (first :: more, rest)
      else throw (.unexpected c)

/-- Any number of items with commas between them, up to the closing character. -/
def readSequence {α : Type} (bound : Nat) (item : Reader α) (closing : Char) : Reader (List α) :=
  fun cs =>
    match skipBlank cs with
    | [] => .error .ended
    | c :: rest => if c = closing then .ok ([], rest) else readItems item closing bound cs

def readMember (bound : Nat) (value : Reader Json) : Reader (String × Json) := fun cs => do
  match skipBlank cs with
  | '"' :: rest =>
    let (name, rest) ← readString bound rest
    match skipBlank rest with
    | ':' :: rest =>
      let (value, rest) ← value rest
      return ((String.ofList name, value), rest)
    | rest => throw (mismatch rest)
  | rest => throw (mismatch rest)

/-- A value, behind what may stand before it. The second argument is how deep arrays and objects may
    still be nested. -/
def readValue (bound : Nat) : Nat → Reader Json
  | depth, cs =>
    match skipBlank cs with
    | [] => .error .ended
    | c :: rest =>
      if c = 'n' then do
        let ((), rest) ← expect "ull".toList rest
        return (.null, rest)
      else if c = 't' then do
        let ((), rest) ← expect "rue".toList rest
        return (.bool true, rest)
      else if c = 'f' then do
        let ((), rest) ← expect "alse".toList rest
        return (.bool false, rest)
      else if c = '"' then do
        let (value, rest) ← readString bound rest
        return (.text (String.ofList value), rest)
      else if c = '[' then
        match depth with
        | 0 => .error .tooDeep
        | depth + 1 => do
          let (items, rest) ← readSequence bound (readValue bound depth) ']' rest
          return (.array items, rest)
      else if c = '\x7b' then
        match depth with
        | 0 => .error .tooDeep
        | depth + 1 => do
          let member := readMember bound (readValue bound depth)
          let (members, rest) ← readSequence bound member '\x7d' rest
          return (.object members, rest)
      else do
        let (value, rest) ← readNumber (c :: rest)
        return (.number value, rest)

/-- How deep arrays and objects may be nested. -/
def maxDepth : Nat := 127

def parseText (s : String) : Except Fault Json := do
  let cs := s.toList
  let (value, rest) ← readValue cs.length maxDepth cs
  match skipBlank rest with
  | [] => return value
  | c :: _ => throw (.trailing c)

def parse (bytes : Bytes) : Except Fault Json :=
  match bytes.text? with
  | some s => parseText s
  | none => .error .notText

end StoreGraph.Json
