/-! # Bits of a packed text

Packed text is read bit by bit, the lowest bit of each byte first. Reading fails in two ways, which
have to be told apart: the bits have run out, or they say something that has no meaning.
-/

namespace RuleCatalog.Archive

/-- Why packed text cannot be read. -/
inductive Failure where
  | truncated
  | corrupt
  deriving DecidableEq, Repr

/-- What is left to read: the bits of a byte that was begun, and whole bytes. -/
structure Bits where
  ahead : List Bool
  bytes : List UInt8
  deriving Repr

namespace Bits

/-- The bits of a sequence of bytes. -/
def ofBytes (bytes : List UInt8) : Bits := ⟨[], bytes⟩

/-- How many bits are left. -/
def size (b : Bits) : Nat := b.ahead.length + 8 * b.bytes.length

/-- The bits of a byte, the lowest first. -/
def ofByte (byte : UInt8) : List Bool := (List.range 8).map byte.toNat.testBit

/-- The next bit. -/
def next (b : Bits) : Except Failure (Bool × Bits) :=
  match b.ahead with
  | bit :: ahead => .ok (bit, ⟨ahead, b.bytes⟩)
  | [] =>
    match b.bytes with
    | [] => .error .truncated
    | byte :: bytes =>
      match ofByte byte with
      | bit :: ahead => .ok (bit, ⟨ahead, bytes⟩)
      | [] => .error .truncated

/-- The next `n` bits as a number, the lowest bit first. -/
def number : Nat → Bits → Except Failure (Nat × Bits)
  | 0, b => .ok (0, b)
  | n + 1, b => do
    let (bit, b) ← b.next
    let (higher, b) ← number n b
    return (bit.toNat + 2 * higher, b)

/-- The bytes after the one that was begun. -/
def aligned (b : Bits) : List UInt8 := b.bytes

end Bits

end RuleCatalog.Archive
