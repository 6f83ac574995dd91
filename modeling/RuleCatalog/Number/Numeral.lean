import RuleCatalog.Number.Binary64

/-! # Reading numerals

Integers in any base up to sixteen and decimal fractions, as they are written in plain text. Nothing
but the numeral may stand in the text. A fraction is read as the floating point number nearest to
it.
-/

namespace RuleCatalog.Numeral

/-- The value of a digit below the base. -/
def digit? (base : Nat) (c : Char) : Option Nat :=
  let value :=
    if '0' ≤ c ∧ c ≤ '9' then c.toNat - '0'.toNat
    else if 'a' ≤ c ∧ c ≤ 'f' then c.toNat - 'a'.toNat + 10
    else if 'A' ≤ c ∧ c ≤ 'F' then c.toNat - 'A'.toNat + 10
    else base
  if value < base then some value else none

/-- The number written by the digits, of which there must be at least one. -/
def natural? (base : Nat) (cs : List Char) : Option Nat :=
  if cs.isEmpty then none else cs.foldlM (fun n c => return n * base + (← digit? base c)) 0

/-- A number with or without a sign. -/
def signed? (base : Nat) : List Char → Option Int
  | '-' :: cs => (natural? base cs).map fun n => -(n : Int)
  | '+' :: cs => (natural? base cs).map fun n => (n : Int)
  | cs => (natural? base cs).map fun n => (n : Int)

/-- The digits at the start of a text. -/
def leadingDigits (cs : List Char) : List Char × List Char :=
  (cs.takeWhile fun c => (digit? 10 c).isSome, cs.dropWhile fun c => (digit? 10 c).isSome)

/-- The exponent behind its mark: a sign and digits, and nothing else. -/
def exponent? : List Char → Option Int
  | [] => some 0
  | mark :: cs => if mark = 'e' ∨ mark = 'E' then signed? 10 cs else none

/-- The floating point number nearest to a decimal fraction with or without sign and exponent. At
least one digit must stand before or behind the point. -/
def fraction? (cs : List Char) : Option Binary64 :=
  let (negative, cs) := match cs with
    | '-' :: rest => (true, rest)
    | '+' :: rest => (false, rest)
    | cs => (false, cs)
  let (whole, rest) := leadingDigits cs
  let (places, rest) := match rest with
    | '.' :: rest => leadingDigits rest
    | rest => ([], rest)
  do
    let digits ← natural? 10 (whole ++ places)
    let exponent ← exponent? rest
    return Binary64.ofDecimal negative digits (exponent - (places.length : Int))

end RuleCatalog.Numeral
