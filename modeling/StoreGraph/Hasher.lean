import StoreGraph.Hash.Crc32c
import StoreGraph.Hash.Xxh64
import StoreGraph.Text.Lowercase

/-! # Key hashes

The hashes that route keys to shards. Routing depends on the key alone, so neither hash is seeded.
-/

namespace StoreGraph

/-- The hash by which keys are routed. -/
inductive Hasher where
  | crc32c
  /-- XXH64, its two halves folded into one. -/
  | xxh64
  deriving Repr, DecidableEq, Inhabited

namespace Hasher

def name : Hasher → String
  | crc32c => "crc32c"
  | xxh64 => "xxh64"

def hash : Hasher → Bytes → UInt32
  | crc32c, key => Hash.crc32c key
  | xxh64, key =>
    let wide := Hash.xxh64 key
    (wide ^^^ (wide >>> 32)).toUInt32

def ofName? : String → Option Hasher
  | "crc32c" => some crc32c
  | "xxh64" => some xxh64
  | _ => none

/-- The hash that a text names, in any case and by any of its usual names; no text at all names the
    default. -/
def parse (s : String) : Except String Hasher :=
  match Text.lowercase s with
  | "crc32c" | "crc32" | "" => .ok crc32c
  | "xxh64" | "xxhash" | "xxhash64" => .ok xxh64
  | _ => .error s!"unknown shard hasher: {s}"

end Hasher

end StoreGraph
