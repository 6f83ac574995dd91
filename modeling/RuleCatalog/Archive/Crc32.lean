/-! # CRC-32

The check sum of the gzip format, after RFC 1952: the remainder of the bytes, taken as a polynomial
with the lowest bit of each byte first, in its reflected form and complemented.
-/

namespace RuleCatalog.Archive.Crc32

/-- The reflected polynomial. -/
def polynomial : UInt32 := 0xEDB88320

/-- Takes in one bit. -/
def shift (r : UInt32) : UInt32 := if r &&& 1 == 1 then (r >>> 1) ^^^ polynomial else r >>> 1

/-- Takes in one byte. -/
def step (r : UInt32) (byte : UInt8) : UInt32 :=
  shift (shift (shift (shift (shift (shift (shift (shift (r ^^^ byte.toUInt32))))))))

/-- The check sum of a sequence of bytes. -/
def checksum (bytes : List UInt8) : UInt32 := ~~~(bytes.foldl step (~~~0))

end RuleCatalog.Archive.Crc32
