import StoreGraph.Json
import StoreGraph.Text.Digit

/-! # Writing JSON text

Documents are written without blanks, members in the order in which they are listed. In strings only
quotes, backslashes and control characters are escaped.
-/

namespace StoreGraph.Json

/-- The letter that stands behind a backslash for a character that strings must not hold as it is.
    -/
def escapeLetter? (c : Char) : Option Char :=
  match c with
  | '"' | '\\' => some c
  | '\x08' => some 'b'
  | '\x0c' => some 'f'
  | '\n' => some 'n'
  | '\r' => some 'r'
  | '\t' => some 't'
  | _ => none

/-- A character as it is written in a string. Controls without a letter of their own are written in
    hexadecimal digits. -/
def escapeChar (c : Char) : List Char :=
  match escapeLetter? c with
  | some letter => ['\\', letter]
  | none =>
    if c.toNat < 0x20 then
      ['\\', 'u', '0', '0', Text.lowerHex (c.toNat / 16), Text.lowerHex (c.toNat % 16)]
    else [c]

def writeString (s : String) : List Char := '"' :: s.toList.flatMap escapeChar ++ ['"']

def writeNumber : Number → List Char
  | .whole value => (toString value).toList
  | .real negative significand exponent =>
    (if negative then ['-'] else []) ++ (toString significand).toList
      ++ 'e' :: (toString exponent).toList

mutual

def write : Json → List Char
  | null => "null".toList
  | bool true => "true".toList
  | bool false => "false".toList
  | number value => writeNumber value
  | text value => writeString value
  | array [] => "[]".toList
  | array (item :: rest) => '[' :: write item ++ writeItems rest
  | object [] => "\x7b\x7d".toList
  | object ((name, value) :: rest) =>
    '\x7b' :: writeString name ++ ':' :: write value ++ writeMembers rest

/-- The further items of an array, each behind a comma, and the closing bracket. -/
def writeItems : List Json → List Char
  | [] => [']']
  | item :: rest => ',' :: write item ++ writeItems rest

/-- The further members of an object, each behind a comma, and the closing brace. -/
def writeMembers : List (String × Json) → List Char
  | [] => ['\x7d']
  | (name, value) :: rest => ',' :: writeString name ++ ':' :: write value ++ writeMembers rest

end

def toText (document : Json) : String := String.ofList (write document)

def toBytes (document : Json) : Bytes := Bytes.ofText document.toText

end StoreGraph.Json
