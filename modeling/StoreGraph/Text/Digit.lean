/-! # Digits

The values of ASCII digits, and the numbers that runs of them stand for.
-/

namespace StoreGraph.Text

/-- The value of a digit in the bases up to sixteen; letters of either case count from ten. -/
def digitValue? (c : Char) : Option Nat :=
  if '0' ≤ c ∧ c ≤ '9' then some (c.toNat - '0'.toNat)
  else if 'a' ≤ c ∧ c ≤ 'f' then some (c.toNat - 'a'.toNat + 10)
  else if 'A' ≤ c ∧ c ≤ 'F' then some (c.toNat - 'A'.toNat + 10)
  else none

def isDigitOf (base : Nat) (c : Char) : Bool := (digitValue? c).any (· < base)

def isDecimal (c : Char) : Bool := isDigitOf 10 c

/-- The number that digits stand for, the most significant one first. -/
def ofDigits (base : Nat) (digits : List Char) : Nat :=
  digits.foldl (fun n c => n * base + (digitValue? c).getD 0) 0

/-- The hexadecimal digit of a value below sixteen, in lower case. -/
def lowerHex (value : Nat) : Char :=
  Char.ofNat (if value < 10 then '0'.toNat + value else 'a'.toNat + (value - 10))

/-- The hexadecimal digit of a value below sixteen, in upper case. -/
def upperHex (value : Nat) : Char :=
  Char.ofNat (if value < 10 then '0'.toNat + value else 'A'.toNat + (value - 10))

/-- The hexadecimal digits of a number, without leading zeros, in lower case. -/
def toLowerHex (n : Nat) : List Char := (Nat.toDigits 16 n)

end StoreGraph.Text
