/-! # Hexadecimal text of bytes -/

namespace RuleCatalog.Digest

/-- A hexadecimal digit in lower case. -/
def hexChar (n : Nat) : Char :=
  if n < 10 then Char.ofNat ('0'.toNat + n) else Char.ofNat ('a'.toNat + (n - 10))

/-- The two digits of a byte. -/
def hexByte (b : UInt8) : List Char := [hexChar (b.toNat / 16), hexChar (b.toNat % 16)]

/-- The digits of a sequence of bytes. -/
def hex (bytes : List UInt8) : String := String.ofList (bytes.flatMap hexByte)

/-- A letter of the ASCII range in lower case. -/
def lowerAscii (c : Char) : Char :=
  if 'A' ≤ c ∧ c ≤ 'Z' then Char.ofNat (c.toNat + 32) else c

/-- Equality up to the case of letters of the ASCII range. -/
def sameIgnoringCase (a b : String) : Bool :=
  a.toList.map lowerAscii == b.toList.map lowerAscii

end RuleCatalog.Digest
