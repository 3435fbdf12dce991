import StoreGraph.Bytes
import StoreGraph.Text.Digit

/-! # Percent encoding

Characters that must not stand for themselves are written as their UTF-8 bytes, each as a percent
sign and two hexadecimal digits. Which characters those are depends on the part of the URL; controls
and characters beyond ASCII are always among them.
-/

namespace StoreGraph.Url

/-- A byte as a percent sign and two hexadecimal digits. -/
def percentByte (b : UInt8) : List Char :=
  ['%', Text.upperHex (b.toNat / 16), Text.upperHex (b.toNat % 16)]

/-- Encode the controls, the characters beyond ASCII and those of a set. -/
def percentEncode (set : List Char) (cs : List Char) : List Char :=
  cs.flatMap fun c =>
    if c.toNat < 0x20 ∨ 0x7E < c.toNat ∨ c ∈ set then (String.utf8EncodeChar c).flatMap percentByte
    else [c]

/-- The further characters that are encoded in a path. -/
def pathSet : List Char := [' ', '"', '<', '>', '\x60', '#', '?', '\x7b', '\x7d']

/-- The further characters that are encoded in a query. -/
def querySet : List Char := [' ', '"', '#', '<', '>']

/-- The further characters that are encoded in the query of a special scheme. -/
def specialQuerySet : List Char := '\'' :: querySet

/-- The bytes that a text with percent signs stands for. -/
def percentDecode : List Char → Bytes
  | '%' :: a :: b :: rest =>
    if Text.isDigitOf 16 a && Text.isDigitOf 16 b then
      UInt8.ofNat (Text.ofDigits 16 [a, b]) :: percentDecode rest
    else String.utf8EncodeChar '%' ++ percentDecode (a :: b :: rest)
  | c :: rest => String.utf8EncodeChar c ++ percentDecode rest
  | [] => []

end StoreGraph.Url
