import RuleCatalog.Archive.Field

/-! # Archive headers

An archive is a sequence of members, each a header of one block and data that is filled up to whole
blocks. A header has fields at fixed places; which fields there are depends on the format that its
magic names. The sum of all bytes of a header stands in the header itself, where blanks are counted
in its place.
-/

namespace RuleCatalog.Archive

/-- The size of a block. -/
def blockSize : Nat := 512

/-- How many bytes fill up to whole blocks. -/
def rounded (size : Nat) : Nat := (size + (blockSize - 1)) / blockSize * blockSize

/-- A header as it stands in an archive. -/
structure Header where
  bytes : List UInt8
  deriving DecidableEq, Repr

namespace Header

/-- The bytes of a field. -/
def slice (h : Header) (start width : Nat) : List UInt8 := (h.bytes.drop start).take width

/-- Where the check sum stands. -/
def sumStart : Nat := 148
def sumWidth : Nat := 8

def name (h : Header) : List UInt8 := h.slice 0 100
def mode (h : Header) : List UInt8 := h.slice 100 8
def sizeField (h : Header) : List UInt8 := h.slice 124 12
def sumField (h : Header) : List UInt8 := h.slice sumStart sumWidth
def typeFlag (h : Header) : UInt8 := (h.slice 156 1).headD 0
def magic (h : Header) : List UInt8 := h.slice 257 8

/-- The directory in front of the name, in the newer of the two formats. -/
def directory (h : Header) : List UInt8 := h.slice 345 155

/-- The sum of a sequence of bytes. -/
def byteSum (bytes : List UInt8) : Nat := (bytes.map UInt8.toNat).foldr (· + ·) 0

/-- The check sum that belongs into a header. -/
def sum (h : Header) : Nat :=
  byteSum (h.bytes.take sumStart) + byteSum (h.bytes.drop (sumStart + sumWidth)) + sumWidth * 32

/-- Whether there is nothing in a header. -/
def isBlank (h : Header) : Bool := h.bytes.all (· == 0)

/-- Whether the check sum in a header is right. -/
def intact (h : Header) : Bool := Field.octal? h.sumField == some h.sum

def size? (h : Header) : Option Nat := Field.number? h.sizeField

/-- The format in which long names stand in members of their own. -/
def gnuMagic : List UInt8 := "ustar  \x00".toUTF8.data.toList

/-- The format in which a directory may stand in front of the name. -/
def ustarMagic : List UInt8 := "ustar\x0000".toUTF8.data.toList

def isGnu (h : Header) : Bool := h.magic == gnuMagic

def isUstar (h : Header) : Bool := h.magic == ustarMagic

/-- The path that stands in the header itself. -/
def path (h : Header) : List UInt8 :=
  let name := Field.text h.name
  if h.isUstar then
    let directory := Field.text h.directory
    if directory.isEmpty then name else directory ++ 47 :: name
  else name

/-! ## Types of members -/

/-- The types of members that matter to a reader. -/
inductive Kind where
  | file
  | longName
  | longLink
  /-- Attributes of the next member. -/
  | attributes
  | sparse
  | other
  deriving DecidableEq, Repr

/-- The type of a member. Members that say something about the next one are known by their magic. -/
def kind (h : Header) : Kind :=
  let described := h.isGnu || h.isUstar
  match Char.ofNat h.typeFlag.toNat with
  | '0' => .file
  | '\x00' => .file
  | 'L' => if described then .longName else .other
  | 'K' => if described then .longLink else .other
  | 'x' => if described then .attributes else .other
  | 'S' => .sparse
  | _ => .other

end Header

end RuleCatalog.Archive
