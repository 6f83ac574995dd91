import RuleCatalog.Archive.Entry

/-! # Packing files into an archive

Files are put one after another in the order given. The path of a file stands in its header if it
fits there; otherwise a member in front of the file holds it in full, and the header has as much of
it as fits. Two blank blocks end the archive.
-/

namespace RuleCatalog.Archive

/-- A file to be packed. -/
structure PackedFile where
  path : String
  content : List UInt8

/-- The bytes of a text. -/
def textBytes (s : String) : List UInt8 := s.toUTF8.data.toList

/-- How much of a path fits into a header. -/
def nameWidth : Nat := 100

/-- The longest start of a text that has at most `room` bytes. -/
def fitting (room : Nat) : List Char → List Char
  | [] => []
  | c :: rest => if c.utf8Size ≤ room then c :: fitting (room - c.utf8Size) rest else []

namespace Header

/-- The permissions of every member. -/
def permissions : Nat := 0o644

/-- A header with its check sum. -/
def make (name : List UInt8) (flag : Char) (size : Nat) : Header :=
  let front := Field.ofText 100 name ++ Field.ofOctal 8 permissions ++ List.replicate 16 0 ++
    Field.ofNumber 12 size ++ Field.ofOctal 12 0
  let back := UInt8.ofNat flag.toNat :: (List.replicate 100 0 ++ gnuMagic ++ List.replicate 247 0)
  ⟨front ++ Field.ofOctal sumWidth (byteSum front + byteSum back + sumWidth * 32) ++ back⟩

end Header

/-- Data filled up to whole blocks. -/
def filled (data : List UInt8) : List UInt8 :=
  data ++ List.replicate (rounded data.length - data.length) 0

/-- A member with its data. -/
def memberBytes (name : List UInt8) (flag : Char) (data : List UInt8) : List UInt8 :=
  (Header.make name flag data.length).bytes ++ filled data

/-- What stands in the header of a member that holds a long name. -/
def longNamePath : List UInt8 := textBytes "././@LongLink"

namespace PackedFile

/-- The path as far as it fits into a header. -/
def shortPath (f : PackedFile) : List UInt8 :=
  textBytes (String.ofList (fitting nameWidth f.path.toList))

/-- Whether the headers can say what they have to: the part of the path that stands in the header is
free of zero bytes, and the sizes of the content and of the path are numbers that can be read. -/
def storable (f : PackedFile) : Bool :=
  !f.shortPath.contains 0 && f.content.length < Field.bound &&
    (textBytes f.path).length + 1 < Field.bound

/-- The members for a file. -/
def bytes (f : PackedFile) : List UInt8 :=
  let path := textBytes f.path
  let long := if path.length ≤ nameWidth then [] else memberBytes longNamePath 'L' (path ++ [0])
  long ++ memberBytes f.shortPath '0' f.content

end PackedFile

/-- What stands at the end of an archive. -/
def ending : List UInt8 := List.replicate (2 * blockSize) 0

/-- The archive with the given files, or the path of the first one that cannot be stored. -/
def ofFiles (files : List PackedFile) : Except String (List UInt8) :=
  match files.find? fun f => !f.storable with
  | some f => .error f.path
  | none => .ok (files.flatMap PackedFile.bytes ++ ending)

/-- All members of an archive, with those that only say something about others. -/
def members (bytes : List UInt8) : List Member :=
  match _split : splitExactly blockSize bytes with
  | none => []
  | some (block, rest) =>
    if Header.isBlank ⟨block⟩ then []
    else
      match _read : Member.read .none ⟨block⟩ rest with
      | none => []
      | some m => m :: members m.rest
  termination_by bytes.length
  decreasing_by
    have := splitExactly_length _split
    have := Member.read_length _read
    simp only [blockSize] at *
    omega

end RuleCatalog.Archive
