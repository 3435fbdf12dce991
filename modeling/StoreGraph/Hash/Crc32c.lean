import StoreGraph.Bytes

/-! # CRC-32C

The 32-bit cyclic redundancy check with the Castagnoli polynomial, least significant bit first,
starting from and finally combined with all ones.
-/

namespace StoreGraph.Hash.Crc32c

/-- The Castagnoli polynomial, least significant bit first. -/
def polynomial : UInt32 := 0x82F63B78

/-- Shift one bit out of the register. -/
def shiftBit (register : UInt32) : UInt32 :=
  if register &&& 1 = 1 then (register >>> 1) ^^^ polynomial else register >>> 1

def feed (register : UInt32) (byte : UInt8) : UInt32 :=
  (List.range 8).foldl (fun r _ => shiftBit r) (register ^^^ byte.toUInt32)

end Crc32c

def crc32c (bytes : Bytes) : UInt32 :=
  bytes.foldl Crc32c.feed 0xFFFFFFFF ^^^ 0xFFFFFFFF

end StoreGraph.Hash
