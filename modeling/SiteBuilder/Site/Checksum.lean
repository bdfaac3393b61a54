import SiteBuilder.Text.Utf8

/-!
# Checksums

The cyclic redundancy check of 32 bits that archives store for every entry: the reflected polynomial
`0xEDB88320`, started and finished with all bits set.
-/

namespace SiteBuilder.Checksum

/-- Divide by the polynomial for a number of bits. -/
def shift : Nat → UInt32 → UInt32
  | 0, state => state
  | bits + 1, state => shift bits (if state &&& 1 = 1 then (state >>> 1) ^^^ 0xEDB88320 else state >>> 1)

/-- Take one more byte into account. -/
def step (state : UInt32) (byte : UInt8) : UInt32 := shift 8 (state ^^^ byte.toUInt32)

/-- The checksum of bytes. -/
def crc32 (bytes : List UInt8) : UInt32 := bytes.foldl step 0xFFFFFFFF ^^^ 0xFFFFFFFF

end SiteBuilder.Checksum
