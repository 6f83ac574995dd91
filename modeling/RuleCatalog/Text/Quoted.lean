import RuleCatalog.Text.Printable

/-! # Quoted text

The form in which a message shows a text or a single character: between quotation marks, with the
mark itself, the backslash and everything that could not be read back from a line of print escaped.
-/

namespace RuleCatalog.Text

/-- The lower case hexadecimal digits of a number, without leading zeros. -/
def hexDigits (n : Nat) : List Char := Nat.toDigits 16 n

/-- The escape of a character by its code point, such as `\u{301}`. -/
def codePointEscape (c : Char) : List Char :=
  '\\' :: 'u' :: '\x7b' :: (hexDigits c.toNat ++ ['\x7d'])

/-- One character inside quotation marks of the kind `mark`. -/
def escapeChar (mark : Char) (c : Char) : List Char :=
  if c = mark ∨ c = '\\' then ['\\', c]
  else if c = '\x00' then ['\\', '0']
  else if c = '\t' then ['\\', 't']
  else if c = '\n' then ['\\', 'n']
  else if c = '\r' then ['\\', 'r']
  else if isPrintable c && !isCombining c then [c]
  else codePointEscape c

/-- A text between double quotation marks. -/
def quoted (s : String) : String :=
  String.ofList ('"' :: (s.toList.flatMap (escapeChar '"') ++ ['"']))

/-- A character between single quotation marks. -/
def quotedChar (c : Char) : String := String.ofList ('\'' :: (escapeChar '\'' c ++ ['\'']))

end RuleCatalog.Text
