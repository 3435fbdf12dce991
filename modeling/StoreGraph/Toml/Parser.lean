import StoreGraph.Toml.Scalar
import StoreGraph.Toml.Tree

/-! # Reading TOML text

A reader takes a part of a document from the front of a list of characters and returns the
characters behind it. Readers of what may be long are given a bound on the number of its parts,
which the length of the whole text never falls short of.
-/

namespace StoreGraph.Toml

/-- Takes a value from the front of a text, or finds a fault. -/
abbrev Reader (α : Type) := List Char → Except Fault (α × List Char)

/-- The fault of a text that does not go on as it has to. -/
def mismatch : List Char → Fault
  | [] => .ended
  | c :: _ => .unexpected c

def isBlank (c : Char) : Bool := c == ' ' || c == '\t'

def skipBlank (cs : List Char) : List Char := cs.dropWhile isBlank

/-- May the character stand for itself in comments and strings, apart from delimiters? -/
def isPlain (c : Char) : Bool := c == '\t' || (decide (0x20 ≤ c.toNat) && c.toNat != 0x7F)

def skipComment : List Char → List Char
  | '#' :: rest => rest.dropWhile isPlain
  | cs => cs

/-- What follows the end of a line, if the line ends here. -/
def afterNewline? : List Char → Option (List Char)
  | '\n' :: rest => some rest
  | '\r' :: '\n' :: rest => some rest
  | _ => none

/-- Pass over the rest of a line, which holds at most blanks and a comment. -/
def endLine (cs : List Char) : Except Fault (List Char) :=
  match skipComment (skipBlank cs) with
  | [] => .ok []
  | rest =>
    match afterNewline? rest with
    | some rest => .ok rest
    | none => .error (mismatch rest)

/-- Pass over blanks, comments and line ends. The first argument bounds the number of lines. -/
def skipLines : Nat → List Char → List Char
  | 0, cs => skipComment (skipBlank cs)
  | fuel + 1, cs =>
    let rest := skipComment (skipBlank cs)
    match afterNewline? rest with
    | some rest => skipLines fuel rest
    | none => rest

/-- The character of an escape with a given number of hexadecimal digits. -/
def readHexEscape (digits : Nat) : Reader Char := fun cs =>
  let written := cs.take digits
  let value := Text.ofDigits 16 written
  if written.length = digits ∧ written.all (Text.isDigitOf 16) ∧ value.isValidChar then
    .ok (Char.ofNat value, cs.drop digits)
  else .error .badEscape

/-- The character of an escape, behind the backslash. -/
def readEscape : Reader Char
  | '"' :: rest => .ok ('"', rest)
  | '\\' :: rest => .ok ('\\', rest)
  | 'b' :: rest => .ok ('\x08', rest)
  | 'f' :: rest => .ok ('\x0c', rest)
  | 'n' :: rest => .ok ('\n', rest)
  | 'r' :: rest => .ok ('\r', rest)
  | 't' :: rest => .ok ('\t', rest)
  | 'u' :: rest => readHexEscape 4 rest
  | 'U' :: rest => readHexEscape 8 rest
  | [] => .error .ended
  | _ :: _ => .error .badEscape

/-- The characters of a string on one line, up to its closing quote, which is passed over. Escapes
    are read in strings with double quotes. The first argument bounds the number of characters. -/
def readLineString (quote : Char) : Nat → Reader (List Char)
  | 0, _ => .error .ended
  | _ + 1, [] => .error .ended
  | fuel + 1, c :: rest =>
    if c = quote then .ok ([], rest)
    else if c = '\\' ∧ quote = '"' then do
      let (escaped, rest) ← readEscape rest
      let (more, rest) ← readLineString quote fuel rest
      return (escaped :: more, rest)
    else if isPlain c then do
      let (more, rest) ← readLineString quote fuel rest
      return (c :: more, rest)
    else .error (.unexpected c)

/-- Pass over blanks and line ends. The first argument bounds the number of lines. -/
def skipBlankLines : Nat → List Char → List Char
  | 0, cs => skipBlank cs
  | fuel + 1, cs =>
    match afterNewline? (skipBlank cs) with
    | some rest => skipBlankLines fuel rest
    | none => skipBlank cs

/-- What follows a backslash at the end of a line: all blanks and line ends are passed over. -/
def afterContinuation? (bound : Nat) (cs : List Char) : Option (List Char) :=
  (afterNewline? (skipBlank cs)).map (skipBlankLines bound)

/-- The characters of a string over several lines, up to its three closing quotes, which are passed
    over. Up to two more quotes may stand right before them. -/
def readBlockString (quote : Char) : Nat → Reader (List Char)
  | 0, _ => .error .ended
  | _ + 1, [] => .error .ended
  | fuel + 1, c :: rest =>
    if c = quote then
      let quotes := ((c :: rest).takeWhile (· == quote)).length
      if 3 ≤ quotes then
        let kept := min quotes 5
        .ok (List.replicate (kept - 3) quote, (c :: rest).drop kept)
      else do
        let (more, rest) ← readBlockString quote fuel rest
        return (c :: more, rest)
    else if c = '\\' ∧ quote = '"' then
      match afterContinuation? fuel rest with
      | some rest => readBlockString quote fuel rest
      | none => do
        let (escaped, rest) ← readEscape rest
        let (more, rest) ← readBlockString quote fuel rest
        return (escaped :: more, rest)
    else
      match afterNewline? (c :: rest) with
      | some rest => do
        let (more, rest) ← readBlockString quote fuel rest
        return ('\n' :: more, rest)
      | none =>
        if isPlain c then do
          let (more, rest) ← readBlockString quote fuel rest
          return (c :: more, rest)
        else .error (.unexpected c)

/-- A string, behind its first quote. -/
def readString (bound : Nat) (quote : Char) : Reader String := fun cs => do
  let (value, rest) ← match cs with
    | a :: b :: rest =>
      if a = quote ∧ b = quote then readBlockString quote bound ((afterNewline? rest).getD rest)
      else readLineString quote bound cs
    | _ => readLineString quote bound cs
  return (String.ofList value, rest)

/-- May the character stand in a name without quotes? -/
def isBare (c : Char) : Bool :=
  ('a' ≤ c && c ≤ 'z') || ('A' ≤ c && c ≤ 'Z') || Text.isDecimal c || c == '_' || c == '-'

/-- A name without dots. -/
def readName (bound : Nat) : Reader String := fun cs => do
  match cs with
  | '"' :: rest =>
    let (name, rest) ← readLineString '"' bound rest
    return (String.ofList name, rest)
  | '\'' :: rest =>
    let (name, rest) ← readLineString '\'' bound rest
    return (String.ofList name, rest)
  | cs =>
    match cs.takeWhile isBare with
    | [] => throw (mismatch cs)
    | name => return (String.ofList name, cs.dropWhile isBare)

/-- A name with dots, and the blanks around it. The second argument bounds the number of parts. -/
def readParts (bound : Nat) : Nat → Reader (List String)
  | 0, _ => .error .tooDeep
  | fuel + 1, cs => do
    let (name, rest) ← readName bound (skipBlank cs)
    match skipBlank rest with
    | '.' :: rest =>
      let (more, rest) ← readParts bound fuel rest
      return (name :: more, rest)
    | rest => return ([name], rest)

/-- Arrays, tables and names with dots may be nested to less than this depth. -/
def depthLimit : Nat := 80

/-- A name with dots: the names of the tables on the way, and the last one. -/
def readKey (bound : Nat) : Reader (List String × String) := fun cs => do
  let (parts, rest) ← readParts bound (depthLimit - 1) cs
  return ((parts.dropLast, parts.getLast?.getD ""), rest)

/-- May the character stand in a value that is written as one word? -/
def isWordChar (c : Char) : Bool := isBare c || c == '+' || c == '.' || c == ':'

/-- Does this look like the beginning of a time of day? -/
def beginsTime : List Char → Bool
  | a :: b :: ':' :: _ => Text.isDecimal a && Text.isDecimal b
  | _ => false

/-- A value that is written as one word, or as a date and a time with a blank between them. -/
def readScalar : Reader Value := fun cs => do
  let word := cs.takeWhile isWordChar
  let rest := cs.dropWhile isWordChar
  let (word, rest) := match afterDate? word, rest with
    | some [], ' ' :: time =>
      if beginsTime time then (word ++ ' ' :: time.takeWhile isWordChar, time.dropWhile isWordChar)
      else (word, rest)
    | _, _ => (word, rest)
  if word.isEmpty then throw (mismatch rest)
  match scalar? word with
  | some value => return (value, rest)
  | none => throw (.badScalar (String.ofList word))

/-- The items of an array up to its closing bracket, which is passed over. A comma may stand behind
    the last one. The third argument bounds the number of items. -/
def readItems (bound : Nat) (value : Reader Value) : Nat → Reader (List Value)
  | 0, _ => .error .ended
  | fuel + 1, cs =>
    match skipLines bound cs with
    | ']' :: rest => .ok ([], rest)
    | cs => do
      let (item, rest) ← value cs
      match skipLines bound rest with
      | ',' :: rest =>
        let (more, rest) ← readItems bound value fuel rest
        return (item :: more, rest)
      | ']' :: rest => return ([item], rest)
      | rest => throw (mismatch rest)

/-- A name with dots, an equals sign and a value. -/
def readEntry (bound : Nat) (value : Reader Value) : Reader ((List String × String) × Value) :=
  fun cs => do
  let (key, rest) ← readKey bound cs
  match rest with
  | '=' :: rest =>
    let (value, rest) ← value (skipBlank rest)
    return ((key, value), rest)
  | rest => throw (mismatch rest)

/-- The entries of a table within a line up to its closing brace, which is passed over, added to
    those that came before. The third argument bounds the number of entries. -/
def readEntries (bound : Nat) (value : Reader Value) : Nat → Entries → Reader Entries
  | 0, _, _ => .error .ended
  | fuel + 1, entries, cs => do
    let (((path, key), value'), rest) ← readEntry bound value cs
    let entries ← Entries.add key value' path entries
    match skipBlank rest with
    | ',' :: rest => readEntries bound value fuel entries rest
    | '\x7d' :: rest => return (entries, rest)
    | rest => throw (mismatch rest)

/-- A value. The second argument is how deep arrays and tables may still be nested. -/
def readValue (bound : Nat) : Nat → Reader Value
  | depth, cs =>
    match cs with
    | [] => .error .ended
    | c :: rest =>
      if c = '"' ∨ c = '\'' then do
        let (value, rest) ← readString bound c rest
        return (.text value, rest)
      else if c = '[' then
        match depth with
        | 0 => .error .tooDeep
        | depth + 1 => do
          let (items, rest) ← readItems bound (readValue bound depth) bound rest
          return (.array items, rest)
      else if c = '\x7b' then
        match depth with
        | 0 => .error .tooDeep
        | depth + 1 =>
          match skipBlank rest with
          | '\x7d' :: rest => .ok (.table [], rest)
          | rest => do
            let (entries, rest) ← readEntries bound (readValue bound depth) bound [] rest
            return (.table (Node.toEntries entries), rest)
      else readScalar (c :: rest)

/-- The closing brackets of a header, and the rest of its line. -/
def closeHeader (brackets : List Char) (cs : List Char) : Except Fault (List Char) :=
  if brackets.isPrefixOf cs then endLine (cs.drop brackets.length) else .error (mismatch cs)

/-- The lines of a document, at most as many as the second argument says. The third argument is the
    path of the open table, and the fourth what was read so far. -/
def readLines (bound : Nat) : Nat → List String → Entries → List Char → Except Fault Entries
  | 0, _, _, _ => .error .ended
  | fuel + 1, path, root, cs =>
    match skipBlank cs with
    | [] => .ok root
    | '[' :: '[' :: rest => do
      let ((above, name), rest) ← readKey bound rest
      let rest ← closeHeader [']', ']'] rest
      let root ← Entries.alter (Entries.openNext name) above root
      readLines bound fuel (above ++ [name]) root rest
    | '[' :: rest => do
      let ((above, name), rest) ← readKey bound rest
      let rest ← closeHeader [']'] rest
      let root ← Entries.alter (Entries.openTable name) above root
      readLines bound fuel (above ++ [name]) root rest
    | c :: rest =>
      if c = '#' ∨ c = '\n' ∨ c = '\r' then do
        let rest ← endLine (c :: rest)
        readLines bound fuel path root rest
      else do
        let value := readValue bound (depthLimit - 1)
        let (((within, key), value), rest) ← readEntry bound value (c :: rest)
        let rest ← endLine rest
        let root ← Entries.alter (Entries.add key value within) path root
        readLines bound fuel path root rest

/-- The entries of the document that a text is. A byte order mark in front is ignored. -/
def parse (s : String) : Except Fault (List (String × Value)) := do
  let cs := match s.toList with
    | c :: rest => if c.toNat = 0xFEFF then rest else c :: rest
    | [] => []
  let root ← readLines cs.length (cs.length + 1) [] [] cs
  return Node.toEntries root

end StoreGraph.Toml
