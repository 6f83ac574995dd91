/-! # Blank characters

Which characters count as blank when a text is trimmed or tested for emptiness: exactly the
characters that carry the `White_Space` property of the Unicode standard. Names, identifiers and
locations that consist of such characters only are treated as if nothing had been written.
-/

namespace RuleCatalog.Text

/-- Whether a character has the `White_Space` property. -/
def isBlank (c : Char) : Bool :=
  let n := c.toNat
  (0x09 ≤ n && n ≤ 0x0D) || n == 0x20 || n == 0x85 || n == 0xA0 || n == 0x1680 ||
    (0x2000 ≤ n && n ≤ 0x200A) || n == 0x2028 || n == 0x2029 || n == 0x202F || n == 0x205F ||
    n == 0x3000

/-- Whether a text is empty or holds blank characters only. -/
def isBlankText (s : String) : Bool := s.toList.all isBlank

/-- The characters of a text from the first that is not blank. -/
def trimStart (cs : List Char) : List Char := cs.dropWhile isBlank

end RuleCatalog.Text
