import StoreGraph.Json
import StoreGraph.Text.Digit

/-! # Numbers in JSON text

The value of a number from the digits it is written with. Of the digits at most as many are kept as
fit 64 bits, and a number beyond the largest double is refused.
-/

namespace StoreGraph.Json

/-- A number as it is written: its sign, the digits before and after the point, and the exponent
    with its sign. -/
structure Numeral where
  negative : Bool
  whole : List Char
  fraction : Option (List Char)
  exponent : Option (Bool × List Char)

/-- The number halfway from the largest double to the next number of its precision. It and what lies
    above it is rounded out of the range. -/
def doubleBound : Nat := (1 <<< 1024) - (1 <<< 970)

/-- The double nearest to a natural number, ties to an even last bit; its range is not limited. -/
def nearestDouble (n : Nat) : Nat :=
  if n.log2 < 53 then n
  else
    let unit := 1 <<< (n.log2 - 52)
    let quotient := n / unit
    let rest := n % unit
    let up := decide (unit < 2 * rest) || (decide (unit = 2 * rest) && quotient % 2 == 1)
    (if up then quotient + 1 else quotient) * unit

/-- Does a number exceed the doubles? The significand and the power of ten are rounded first, and
    then their product. -/
def exceedsDouble (significand : Nat) (exponent : Int) : Bool :=
  significand != 0 &&
    match exponent with
    | .ofNat e =>
      decide (308 < e) ||
        decide (doubleBound ≤ nearestDouble significand * nearestDouble (Nat.pow 10 e))
    | .negSucc _ => false

/-- Append digits to a significand as long as it fits 64 bits; the answer tells how many were
    appended. -/
def appendDigits : Nat → List Char → Nat × Nat
  | significand, [] => (significand, 0)
  | significand, c :: rest =>
    let longer := significand * 10 + (Text.digitValue? c).getD 0
    if longer < UInt64.size then
      let (all, count) := appendDigits longer rest
      (all, count + 1)
    else (significand, 0)

namespace Numeral

/-- The value of a numeral; none if it exceeds the doubles. -/
def value? (n : Numeral) : Option Number :=
  let whole := Text.ofDigits 10 n.whole
  let limit := if n.negative then 1 <<< 63 else UInt64.size - 1
  if n.fraction.isNone && n.exponent.isNone && decide (whole ≤ limit)
      && !(n.negative && whole == 0) then
    some (.whole (if n.negative then -(whole : Int) else whole))
  else
    let (significand, kept) := appendDigits 0 n.whole
    let dropped := n.whole.length - kept
    let (significand, appended) := appendDigits significand (n.fraction.getD [])
    let shift : Int := match n.exponent with
      | none => 0
      | some (false, digits) => Text.ofDigits 10 digits
      | some (true, digits) => -(Text.ofDigits 10 digits : Int)
    let exponent := (dropped : Int) - appended + shift
    if exceedsDouble significand exponent then none
    else some (.real n.negative significand exponent)

end Numeral

end StoreGraph.Json
