import StoreGraph.Text.CharTable
import StoreGraph.Text.Digit
import StoreGraph.Text.PrintTable

/-! # Quoted text

Text as it is shown in descriptions of values: in quotes, with quotes, backslashes and whatever
would not be seen on its own escaped.
-/

namespace StoreGraph.Text

/-- The letter that is shown behind a backslash for a character that is not shown as it is. -/
def shownLetter? (c : Char) : Option Char :=
  match c with
  | '"' | '\\' => some c
  | '\x00' => some '0'
  | '\t' => some 't'
  | '\r' => some 'r'
  | '\n' => some 'n'
  | _ => none

/-- A character as it is shown in quotes. -/
def showChar (c : Char) : List Char :=
  match shownLetter? c with
  | some letter => ['\\', letter]
  | none =>
    if inRanges extenderRanges c || inRanges unprintableRanges c then
      ['\\', 'u', '\x7b'] ++ toLowerHex c.toNat ++ ['\x7d']
    else [c]

/-- A text as it is shown in quotes. -/
def quoted (s : String) : String := String.ofList ('"' :: s.toList.flatMap showChar ++ ['"'])

end StoreGraph.Text
