import RuleCatalog.Text.Blank

/-! # Numbers and texts in archive headers

Fields of fixed width. A text ends at the first zero byte or fills its field. A number is written
with octal digits that end with a zero byte or, if it needs more of them than there is room for, as
eight bytes with a mark in front.
-/

namespace RuleCatalog.Archive.Field

/-- The text in a field. -/
def text (field : List UInt8) : List UInt8 := field.takeWhile (· != 0)

/-- A text put into a field of a width. -/
def ofText (width : Nat) (bytes : List UInt8) : List UInt8 :=
  let kept := bytes.take width
  kept ++ List.replicate (width - kept.length) 0

/-- The bound of the numbers that can be read. -/
def bound : Nat := Nat.pow 2 64

/-- The value of a digit of a base up to ten. -/
def digit? (base : Nat) (c : Char) : Option Nat :=
  let n := c.toNat
  if '0'.toNat ≤ n ∧ n < '0'.toNat + base then some (n - '0'.toNat) else none

/-- The number written with digits of a base, at least one, perhaps after a plus sign. -/
def digits? (base : Nat) (cs : List Char) : Option Nat :=
  let ds := match cs with
    | '+' :: rest => rest
    | _ => cs
  if ds.isEmpty then none
  else do
    let n ← ds.foldlM (fun n c => return n * base + (← digit? base c)) 0
    if n < bound then some n else none

/-- Characters without the blanks around them. -/
def trimmed (cs : List Char) : List Char :=
  ((cs.dropWhile Text.isBlank).reverse.dropWhile Text.isBlank).reverse

/-- The number in a field of octal digits. -/
def octal? (field : List UInt8) : Option Nat := do
  let s ← String.fromUTF8? ⟨(text field).toArray⟩
  digits? 8 (trimmed s.toList)

/-- The mark in the first byte of a number that is not written with digits. -/
def binaryMark : UInt8 := 0x80

/-- The number in bytes, the highest first. -/
def bigEndian (bytes : List UInt8) : Nat := bytes.foldl (fun n b => n * 256 + b.toNat) 0

/-- The number in a field of octal digits or of bytes. -/
def number? (field : List UInt8) : Option Nat :=
  match field with
  | first :: _ =>
    if first.toNat.testBit 7 then some (bigEndian (field.drop (field.length - 8)))
    else octal? field
  | [] => none

/-- The lowest `n` octal digits of a number. -/
def octalDigits : Nat → Nat → List UInt8
  | 0, _ => []
  | n + 1, x => octalDigits n (x / 8) ++ [UInt8.ofNat (48 + x % 8)]

/-- A number put into a field of a width in octal digits. -/
def ofOctal (width x : Nat) : List UInt8 := octalDigits (width - 1) x ++ [0]

/-- The lowest `n` bytes of a number, the highest first. -/
def bigEndianBytes : Nat → Nat → List UInt8
  | 0, _ => []
  | n + 1, x => bigEndianBytes n (x / 256) ++ [UInt8.ofNat x]

/-- A number put into a field of a width, in octal digits if there is room. -/
def ofNumber (width x : Nat) : List UInt8 :=
  if x < Nat.pow 8 (width - 1) then ofOctal width x
  else binaryMark :: (List.replicate (width - 9) 0 ++ bigEndianBytes 8 x)

end RuleCatalog.Archive.Field
