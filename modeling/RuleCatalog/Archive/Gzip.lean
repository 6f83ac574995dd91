import RuleCatalog.Archive.Crc32
import RuleCatalog.Archive.Inflate

/-! # Gzip

The wrapping of packed text, after RFC 1952: a header, the packed text, and at the end the check sum
and the length of what was packed. Packing keeps the bytes as they are, in blocks.

Unpacking gives a `Stream`: the bytes that can be had, and whether they are all there is. Damage
shows only to a reader who wants more bytes than could be unpacked; a reader who stops before that
never comes to know it.
-/

namespace RuleCatalog.Archive

/-- Bytes that can be had, and whether nothing is missing or wrong after them. -/
structure Stream where
  bytes : List UInt8
  whole : Bool
  deriving DecidableEq, Repr

namespace Gzip

/-! ## Numbers in headers -/

/-- The lowest `n` bytes of a number, the lowest first. -/
def littleEndian : Nat → Nat → List UInt8
  | 0, _ => []
  | n + 1, x => UInt8.ofNat x :: littleEndian n (x / 256)

/-! ## Unpacking -/

/-- The first two bytes, and the number of the only packing method. -/
def magic : List UInt8 := [0x1f, 0x8b, 0x08]

/-- How long a name or a comment in the header may be. -/
def maxText : Nat := 65535

/-- What follows a text that ends with a zero byte. -/
def afterText (bytes : List UInt8) : Option (List UInt8) :=
  let text := bytes.takeWhile (· != 0)
  if maxText < text.length then none
  else
    match bytes.drop text.length with
    | _ :: rest => some rest
    | [] => none

/-- What follows a field that begins with its length. -/
def afterExtra : List UInt8 → Option (List UInt8)
  | low :: high :: rest =>
    let length := Inflate.word16 low high
    if length ≤ rest.length then some (rest.drop length) else none
  | _ => none

/-- Applies a step if a bit is set. -/
def whenSet (flags : UInt8) (bit : Nat) (step : List UInt8 → Option (List UInt8))
    (bytes : List UInt8) : Option (List UInt8) :=
  if flags.toNat.testBit bit then step bytes else some bytes

/-- What follows the check sum of the header, which covers what was skipped from `header`. -/
def afterHeaderCheck (header bytes : List UInt8) : Option (List UInt8) :=
  match bytes with
  | low :: high :: rest =>
    let covered := header.take (header.length - bytes.length)
    if (Crc32.checksum covered).toNat % 65536 = Inflate.word16 low high then some rest else none
  | _ => none

/-- The packed text after the header. -/
def afterHeader (file : List UInt8) : Option (List UInt8) :=
  match file with
  | m1 :: m2 :: method :: flags :: _ :: _ :: _ :: _ :: _ :: _ :: rest =>
    if [m1, m2, method] ≠ magic ∨ 32 ≤ flags.toNat then none
    else do
      let rest ← whenSet flags 2 afterExtra rest
      let rest ← whenSet flags 3 afterText rest
      let rest ← whenSet flags 4 afterText rest
      whenSet flags 1 (afterHeaderCheck file) rest
  | _ => none

/-- What stands after packed text. -/
def trailer (unpacked : List UInt8) : List UInt8 :=
  littleEndian 4 (Crc32.checksum unpacked).toNat ++ littleEndian 4 unpacked.length

/-- How many bytes are unpacked in one go. If packed text has no meaning, nothing of the go in which
this shows can be had. -/
def window : Nat := 32768

/-- Unpacks a file. -/
def unpack (file : List UInt8) : Stream :=
  match afterHeader file with
  | none => ⟨[], false⟩
  | some packed =>
    let p := Inflate.run packed
    let unpacked := p.output.data.toList
    match p.rest with
    | .ok b => ⟨unpacked, (trailer unpacked).isPrefixOf b.aligned⟩
    | .error .truncated => ⟨unpacked, false⟩
    | .error .corrupt => ⟨unpacked.take (unpacked.length / window * window), false⟩

/-! ## Packing -/

/-- How many bytes a block can hold. -/
def blockSize : Nat := 65535

/-- A block that holds bytes as they are. -/
def block (last : Bool) (bytes : List UInt8) : List UInt8 :=
  (if last then 1 else 0) :: (littleEndian 2 bytes.length ++ littleEndian 2 (65535 - bytes.length)
    ++ bytes)

/-- Blocks that hold bytes as they are. -/
def blocks (bytes : List UInt8) : List UInt8 :=
  if bytes.length ≤ blockSize then block true bytes
  else block false (bytes.take blockSize) ++ blocks (bytes.drop blockSize)
  termination_by bytes.length
  decreasing_by simp [blockSize] at *; omega

/-- The header of a packed file: no flags, no time, and an unknown system. -/
def header : List UInt8 := magic ++ [0, 0, 0, 0, 0, 0, 255]

/-- Packs bytes into a file. -/
def pack (bytes : List UInt8) : List UInt8 := header ++ blocks bytes ++ trailer bytes

end Gzip

end RuleCatalog.Archive
