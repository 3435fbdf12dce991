import StoreGraph.Json.Number
import StoreGraph.Text.Digit
import StoreGraph.Toml

/-! # Numbers, dates and times in TOML

Values that are written as one word. A word is read as a whole, or not at all.
-/

namespace StoreGraph.Toml

/-- The digits of a number in a base, without the underscores that may stand between two digits. -/
def plainDigits? (base : Nat) : List Char → Option (List Char)
  | [] => none
  | [c] => if Text.isDigitOf base c then some [c] else none
  | c :: '_' :: rest => do
    if Text.isDigitOf base c then return c :: (← plainDigits? base rest) else none
  | c :: rest => do if Text.isDigitOf base c then return c :: (← plainDigits? base rest) else none

/-- The sign of a number, and what follows it. -/
def splitSign : List Char → Bool × List Char
  | '-' :: rest => (true, rest)
  | '+' :: rest => (false, rest)
  | cs => (false, cs)

/-- The digits of a decimal number, which begin with zero only if that is all. -/
def decimalDigits? (cs : List Char) : Option (List Char) := do
  match ← plainDigits? 10 cs with
  | '0' :: _ :: _ => none
  | digits => some digits

/-- A whole number of 64 bits, with its sign. -/
def integer? (cs : List Char) : Option Int :=
  let inRange (n : Int) : Option Int :=
    if Int64.minValue.toInt ≤ n ∧ n ≤ Int64.maxValue.toInt then some n else none
  let inBase (base : Nat) (cs : List Char) : Option Int := do
    inRange (Text.ofDigits base (← plainDigits? base cs))
  match cs with
  | '0' :: 'x' :: rest => inBase 16 rest
  | '0' :: 'o' :: rest => inBase 8 rest
  | '0' :: 'b' :: rest => inBase 2 rest
  | cs => do
    let (negative, digits) := splitSign cs
    let n : Int := Text.ofDigits 10 (← decimalDigits? digits)
    inRange (if negative then -n else n)

/-- Is this number, a power of ten times a significand, rounded to one beyond the doubles? -/
def exceedsDoubles (significand : Nat) (exponent : Int) : Bool :=
  match exponent with
  | .ofNat e =>
    significand != 0
      && (decide (400 < e) || decide (Json.doubleBound ≤ significand * Nat.pow 10 e))
  | .negSucc e =>
    decide (e < significand.log2) && decide (Json.doubleBound * Nat.pow 10 (e + 1) ≤ significand)

/-- The exponent behind an `e`. -/
def exponent? (cs : List Char) : Option Int := do
  let (negative, digits) := splitSign cs
  let n : Int := Text.ofDigits 10 (← plainDigits? 10 digits)
  return if negative then -n else n

/-- A number with a fraction, an exponent, or both. One above all doubles is refused, and one below
    all doubles is infinite. -/
def real? (cs : List Char) : Option Real := do
  let (negative, rest) := splitSign cs
  if rest = "inf".toList then return .infinite negative
  if rest = "nan".toList then return .nan
  let isExponentMark := fun c => c == 'e' || c == 'E'
  let mantissa := rest.takeWhile (!isExponentMark ·)
  let behind := rest.dropWhile (!isExponentMark ·)
  let whole ← decimalDigits? (mantissa.takeWhile (· != '.'))
  let fraction ← match mantissa.dropWhile (· != '.') with
    | [] => some []
    | _ :: digits => plainDigits? 10 digits
  let exponent ← match behind with
    | [] => if mantissa.contains '.' then some 0 else none
    | _ :: written => exponent? written
  let significand := Text.ofDigits 10 (whole ++ fraction)
  let exponent := exponent - fraction.length
  if exceedsDoubles significand exponent then
    if negative then return .infinite true else none
  else return .finite negative significand exponent

/-- A number of exactly two digits within bounds, and what follows it. -/
def twoDigits? (least most : Nat) : List Char → Option (Nat × List Char)
  | a :: b :: rest =>
    let n := Text.ofDigits 10 [a, b]
    if Text.isDecimal a && Text.isDecimal b && decide (least ≤ n) && decide (n ≤ most) then
      some (n, rest)
    else none
  | _ => none

/-- Pass over a character that has to come next. -/
def after? (expected : Char) : List Char → Option (List Char)
  | c :: rest => if c = expected then some rest else none
  | [] => none

def daysInMonth (year month : Nat) : Nat :=
  if month = 2 then if year % 4 = 0 ∧ (year % 100 ≠ 0 ∨ year % 400 = 0) then 29 else 28
  else if month ∈ [4, 6, 9, 11] then 30
  else 31

def afterDate? (cs : List Char) : Option (List Char) := do
  let digits := cs.take 4
  if digits.length = 4 ∧ digits.all Text.isDecimal then
    let rest ← after? '-' (cs.drop 4)
    let (month, rest) ← twoDigits? 1 12 rest
    let rest ← after? '-' rest
    let (_, rest) ← twoDigits? 1 (daysInMonth (Text.ofDigits 10 digits) month) rest
    return rest
  else none

def afterTime? (cs : List Char) : Option (List Char) := do
  let (_, rest) ← twoDigits? 0 23 cs
  let rest ← after? ':' rest
  let (_, rest) ← twoDigits? 0 59 rest
  let rest ← after? ':' rest
  let (_, rest) ← twoDigits? 0 60 rest
  match rest with
  | '.' :: c :: rest => if Text.isDecimal c then return rest.dropWhile Text.isDecimal else none
  | '.' :: [] => none
  | rest => return rest

/-- Is this the distance of a local time from the universal one? -/
def isOffset : List Char → Bool
  | [] => true
  | ['Z'] | ['z'] => true
  | sign :: rest =>
    (sign == '+' || sign == '-') &&
      ((do
        let (_, rest) ← twoDigits? 0 23 rest
        let rest ← after? ':' rest
        let (_, rest) ← twoDigits? 0 59 rest
        if rest.isEmpty then some () else none) : Option Unit).isSome

/-- Is this a date, a time of day, or a date with a time? -/
def isDatetime (cs : List Char) : Bool :=
  match afterDate? cs with
  | some [] => true
  | some (mark :: rest) =>
    (mark == 'T' || mark == 't' || mark == ' ') && (afterTime? rest).any isOffset
  | none => afterTime? cs == some []

/-- The value that a word stands for. -/
def scalar? (cs : List Char) : Option Value :=
  if cs = "true".toList then some (.bool true)
  else if cs = "false".toList then some (.bool false)
  else if isDatetime cs then some (.datetime (String.ofList cs))
  else
    match integer? cs with
    | some n => some (.integer n)
    | none => (real? cs).map .real

end StoreGraph.Toml
