import StoreGraph.Bytes

/-! # XXH64

The 64-bit xxHash of a byte string, with seed zero: whole stripes of 32 bytes feed four lanes, the
rest is mixed in by words of eight and four bytes and then by single bytes, and a last round spreads
every bit over the whole result.
-/

namespace StoreGraph.Hash

namespace Xxh64

def prime1 : UInt64 := 0x9E3779B185EBCA87
def prime2 : UInt64 := 0xC2B2AE3D27D4EB4F
def prime3 : UInt64 := 0x165667B19E3779F9
def prime4 : UInt64 := 0x85EBCA77C2B2AE63
def prime5 : UInt64 := 0x27D4EB2F165667C5

/-- Turn a word left by a number of bits between 1 and 63. -/
def rotateLeft (w : UInt64) (bits : UInt64) : UInt64 :=
  (w <<< bits) ||| (w >>> (64 - bits))

/-- The word whose bytes these are, the least significant one first. -/
def littleEndian (bytes : Bytes) : UInt64 :=
  bytes.foldr (fun b w => w * 256 + b.toUInt64) 0

/-- Mix one word into an accumulator. -/
def mixWord (acc word : UInt64) : UInt64 :=
  rotateLeft (acc + word * prime2) 31 * prime1

/-- The four accumulators fed by whole stripes. -/
structure Lanes where
  first : UInt64
  second : UInt64
  third : UInt64
  fourth : UInt64

namespace Lanes

def start : Lanes := ⟨prime1 + prime2, prime2, 0, 0 - prime1⟩

/-- Feed a stripe of 32 bytes, eight to each lane. -/
def feed (lanes : Lanes) (stripe : Bytes) : Lanes where
  first := mixWord lanes.first (littleEndian (stripe.take 8))
  second := mixWord lanes.second (littleEndian ((stripe.drop 8).take 8))
  third := mixWord lanes.third (littleEndian ((stripe.drop 16).take 8))
  fourth := mixWord lanes.fourth (littleEndian ((stripe.drop 24).take 8))

/-- Feed the given number of stripes, and return the bytes behind them. -/
def feedStripes : Nat → Lanes → Bytes → Lanes × Bytes
  | 0, lanes, bytes => (lanes, bytes)
  | n + 1, lanes, bytes => feedStripes n (lanes.feed (bytes.take 32)) (bytes.drop 32)

def merge (acc lane : UInt64) : UInt64 :=
  (acc ^^^ mixWord 0 lane) * prime1 + prime4

def join (lanes : Lanes) : UInt64 :=
  let sum := rotateLeft lanes.first 1 + rotateLeft lanes.second 7
    + rotateLeft lanes.third 12 + rotateLeft lanes.fourth 18
  merge (merge (merge (merge sum lanes.first) lanes.second) lanes.third) lanes.fourth

end Lanes

/-- Mix in the given number of eight-byte words, and return the bytes behind them. -/
def mixLongs : Nat → UInt64 → Bytes → UInt64 × Bytes
  | 0, acc, bytes => (acc, bytes)
  | n + 1, acc, bytes =>
    let mixed := acc ^^^ mixWord 0 (littleEndian (bytes.take 8))
    mixLongs n (rotateLeft mixed 27 * prime1 + prime4) (bytes.drop 8)

/-- Mix in a four-byte word, if there is one. -/
def mixShort (acc : UInt64) (bytes : Bytes) : UInt64 × Bytes :=
  if bytes.length < 4 then (acc, bytes)
  else
    let mixed := acc ^^^ (littleEndian (bytes.take 4) * prime1)
    (rotateLeft mixed 23 * prime2 + prime3, bytes.drop 4)

def mixByte (acc : UInt64) (byte : UInt8) : UInt64 :=
  rotateLeft (acc ^^^ (byte.toUInt64 * prime5)) 11 * prime1

/-- Spread every bit of the accumulator over the result. -/
def avalanche (acc : UInt64) : UInt64 :=
  let acc := (acc ^^^ (acc >>> 33)) * prime2
  let acc := (acc ^^^ (acc >>> 29)) * prime3
  acc ^^^ (acc >>> 32)

end Xxh64

open Xxh64 in
/-- The XXH64 of a byte string, with seed zero. -/
def xxh64 (bytes : Bytes) : UInt64 :=
  let stripes := bytes.length / 32
  let (lanes, rest) := Lanes.feedStripes stripes .start bytes
  let acc := (if stripes = 0 then prime5 else lanes.join) + bytes.length.toUInt64
  let (acc, rest) := mixLongs (rest.length / 8) acc rest
  let (acc, rest) := mixShort acc rest
  avalanche (rest.foldl mixByte acc)

end StoreGraph.Hash
