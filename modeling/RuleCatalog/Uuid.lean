/-! # Universally unique identifiers

Identifiers of 128 bits. They are read in four spellings: as 32 hexadecimal digits, with hyphens
after the eighth, twelfth, sixteenth and twentieth digit, and with hyphens in braces or behind the
name of the identifier scheme. They are written in lower case with hyphens.
-/

namespace RuleCatalog

/-- An identifier, as a number. -/
structure Uuid where
  value : Nat
  deriving DecidableEq, Repr

namespace Uuid

private def hexValue? (c : Char) : Option Nat :=
  if '0' ≤ c ∧ c ≤ '9' then some (c.toNat - '0'.toNat)
  else if 'a' ≤ c ∧ c ≤ 'f' then some (c.toNat - 'a'.toNat + 10)
  else if 'A' ≤ c ∧ c ≤ 'F' then some (c.toNat - 'A'.toNat + 10)
  else none

/-- Exactly 32 hexadecimal digits. -/
def plain? (cs : List Char) : Option Uuid :=
  if cs.length = 32 then
    (cs.foldlM (fun n c => return n * 16 + (← hexValue? c)) 0).map Uuid.mk
  else none

/-- The sizes of the groups of digits between hyphens. -/
def groups : List Nat := [8, 4, 4, 4, 12]

/-- Takes out the hyphens between the groups. -/
def joinGroups? : List Nat → List Char → Option (List Char)
  | [], _ => none
  | [n], cs => if cs.length = n then some cs else none
  | n :: rest, cs =>
    match cs.drop n with
    | '-' :: after => (joinGroups? rest after).map (cs.take n ++ ·)
    | _ => none

def hyphenated? (cs : List Char) : Option Uuid := (joinGroups? groups cs).bind plain?

/-- The text inside braces. -/
def unbraced? : List Char → Option (List Char)
  | '\x7b' :: rest => if rest.getLast? = some '\x7d' then some rest.dropLast else none
  | _ => none

/-- The text behind the name of the scheme, in lower or in upper case. -/
def withoutScheme? (cs : List Char) : Option (List Char) :=
  if "urn:uuid:".toList.isPrefixOf cs || "URN:UUID:".toList.isPrefixOf cs then some (cs.drop 9)
  else none

/-- Reads an identifier. -/
def parse? (s : String) : Option Uuid :=
  let cs := s.toList
  (plain? cs).or ((hyphenated? cs).or
    (((unbraced? cs).bind hyphenated?).or ((withoutScheme? cs).bind hyphenated?)))

private def hexDigitOf (n : Nat) : Char :=
  if n < 10 then Char.ofNat ('0'.toNat + n) else Char.ofNat ('a'.toNat + (n - 10))

/-- The 32 digits of an identifier. -/
def digits (u : Uuid) : List Char :=
  (List.range 32).map fun i => hexDigitOf (u.value / Nat.pow 16 (31 - i) % 16)

/-- Puts hyphens between the groups. -/
def splitGroups : List Nat → List Char → List Char
  | [], cs => cs
  | [_], cs => cs
  | n :: rest, cs => cs.take n ++ '-' :: splitGroups rest (cs.drop n)

/-- The written form. -/
def text (u : Uuid) : String := String.ofList (splitGroups groups u.digits)

end Uuid

end RuleCatalog
