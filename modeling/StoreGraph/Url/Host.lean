import StoreGraph.Text.Split
import StoreGraph.Url
import StoreGraph.Url.HostName
import StoreGraph.Url.Percent

/-! # Hosts

The hosts of URLs: addresses of either version of the Internet Protocol, names written in ASCII, and
for schemes that are not special any text without delimiters.
-/

namespace StoreGraph.Url

/-- The value of a piece of an IPv6 address: one to four hexadecimal digits. -/
def ipv6Piece? (cs : List Char) : Option Nat :=
  if cs.isEmpty ∨ 4 < cs.length ∨ !cs.all (Text.isDigitOf 16) then none
  else some (Text.ofDigits 16 cs)

/-- A number from 0 to 255 in decimal, without leading zeros. -/
def decimalOctet? (cs : List Char) : Option Nat :=
  if cs.isEmpty ∨ !cs.all Text.isDecimal ∨ (1 < cs.length ∧ cs.head? = some '0') then none
  else
    let n := Text.ofDigits 10 cs
    if 255 < n then none else some n

/-- The two pieces that an IPv4 address stands for at the end of an IPv6 address. -/
def embeddedIpv4? (cs : List Char) : Option (List Nat) := do
  match ← (Text.splitAtAll (· == '.') cs).mapM decimalOctet? with
  | [a, b, c, d] => some [a * 256 + b, c * 256 + d]
  | _ => none

/-- The pieces between colons; only the last one may be an IPv4 address, and only where `final`. -/
def ipv6Pieces? (final : Bool) : List (List Char) → Option (List Nat)
  | [] => some []
  | [last] =>
    if final && last.contains '.' then embeddedIpv4? last else (ipv6Piece? last).map ([·])
  | piece :: rest => do return (← ipv6Piece? piece) :: (← ipv6Pieces? final rest)

/-- Split a text at the first pair of colons. -/
def splitDoubleColon : List Char → Option (List Char × List Char)
  | ':' :: ':' :: rest => some ([], rest)
  | c :: rest => (splitDoubleColon rest).map fun (before, behind) => (c :: before, behind)
  | [] => none

/-- The eight pieces of an IPv6 address. A pair of colons stands for at least one piece of zero. -/
def parseIpv6? (cs : List Char) : Option (List Nat) := do
  let pieces (final : Bool) (part : List Char) : Option (List Nat) :=
    if part.isEmpty then some [] else ipv6Pieces? final (Text.splitAtAll (· == ':') part)
  match splitDoubleColon cs with
  | none =>
    let all ← pieces true cs
    if all.length = 8 then some all else none
  | some (before, behind) =>
    let front ← pieces false before
    let back ← pieces true behind
    if front.length + back.length ≤ 7 then
      some (front ++ List.replicate (8 - front.length - back.length) 0 ++ back)
    else none

/-- The length of the run of zeros at the front. -/
def zeroRun (pieces : List Nat) : Nat := (pieces.takeWhile (· == 0)).length

/-- The position and the length of the first of the longest runs of zeros. -/
def longestZeroRun (pieces : List Nat) : Nat × Nat :=
  (List.range pieces.length).foldl (fun best i =>
    let run := zeroRun (pieces.drop i)
    if best.2 < run then (i, run) else best) (0, 0)

/-- The text of an IPv6 address: the longest run of at least two zeros is left out. -/
def ipv6Text (pieces : List Nat) : List Char :=
  let hex (part : List Nat) : List Char := [':'].intercalate (part.map Text.toLowerHex)
  let (start, length) := longestZeroRun pieces
  if length < 2 then hex pieces
  else hex (pieces.take start) ++ [':', ':'] ++ hex (pieces.drop (start + length))

/-- A number in an IPv4 address: hexadecimal behind `0x`, octal behind `0`, otherwise decimal. -/
def ipv4Number? (cs : List Char) : Option Nat :=
  let read (base : Nat) (digits : List Char) : Option Nat :=
    if digits.all (Text.isDigitOf base) then some (Text.ofDigits base digits) else none
  match cs with
  | [] => none
  | '0' :: x :: digits =>
    if x = 'x' ∨ x = 'X' then read 16 digits else read 8 (x :: digits)
  | digits => read 10 digits

/-- The parts of a name between dots; a dot at the end ends the last part. -/
def nameParts (cs : List Char) : List (List Char) :=
  let parts := Text.splitAtAll (· == '.') cs
  if 1 < parts.length ∧ parts.getLast? = some [] then parts.dropLast else parts

/-- Does the last part of a name look like a number? -/
def endsInNumber (cs : List Char) : Bool :=
  match (nameParts cs).getLast? with
  | none => false
  | some last => !last.isEmpty && (last.all Text.isDecimal || (ipv4Number? last).isSome)

/-- The value of an IPv4 address: up to four numbers, the last of which fills the bytes that the
    others leave. -/
def parseIpv4? (cs : List Char) : Option Nat := do
  let numbers ← (nameParts cs).mapM ipv4Number?
  let front := numbers.dropLast
  let last ← numbers.getLast?
  if 4 < numbers.length ∨ front.any (255 < ·) ∨ 1 <<< (8 * (4 - front.length)) ≤ last then none
  else some (front.zipIdx.foldl (fun n (part, i) => n + (part <<< (8 * (3 - i)))) last)

def ipv4Text (n : Nat) : List Char :=
  ['.'].intercalate ([3, 2, 1, 0].map fun i => (toString ((n >>> (8 * i)) % 256)).toList)

/-- A name in ASCII. Percent signs in it stand for bytes. -/
def asciiName (cs : List Char) : Except Fault (List Char) :=
  match (percentDecode cs).text?.bind fun s => HostName.ascii? s.toList with
  | some name => .ok name
  | none => .error .invalidName

/-- The address in brackets that a host is, if it begins with a bracket. -/
def bracketHost? : List Char → Option (Except Fault (List Char))
  | '[' :: rest =>
    if rest.getLast? = some ']' then
      match parseIpv6? rest.dropLast with
      | some pieces => some (.ok ('[' :: ipv6Text pieces ++ [']']))
      | none => some (.error .invalidIpv6)
    else some (.error .invalidIpv6)
  | _ => none

/-- The host of a URL whose scheme is not special. -/
def opaqueHost (cs : List Char) : Except Fault (List Char) :=
  match bracketHost? cs with
  | some host => host
  | none =>
    if cs.any isForbiddenInHost then .error .invalidHostCharacter else .ok (percentEncode [] cs)

/-- The host of a URL whose scheme is special. -/
def specialHost (cs : List Char) : Except Fault (List Char) :=
  match bracketHost? cs with
  | some host => host
  | none => do
    let name ← asciiName cs
    if name.isEmpty then throw .emptyHost
    else if endsInNumber name then
      match parseIpv4? name with
      | some address => return ipv4Text address
      | none => throw .invalidIpv4
    else return name

end StoreGraph.Url
