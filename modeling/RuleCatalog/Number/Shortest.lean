import RuleCatalog.Number.Binary64

/-! # Shortest decimal form

The fewest decimal digits that read back as a given floating point number, and among those with
that many digits the nearest to its exact value. What remains open, which of two equally near
candidates is taken and how the digits are laid out, belongs to the style of the text that is
written.
-/

namespace RuleCatalog

/-- A positive decimal number: the digits of `digits`, the last of weight `10 ^ exponent`. -/
structure Decimal where
  digits : Nat
  exponent : Int
  deriving DecidableEq, Repr

/-- Which of two equally near decimals is taken. -/
inductive Tie where
  | even
  | up
  deriving DecidableEq, Repr

namespace Binary64

/-- `m * 2 ^ q` in units of `10 ^ k`, as a quotient of natural numbers. -/
def inUnits (m : Nat) (q k : Int) : Nat × Nat :=
  let (num, den) := scaleQuotient m 1 q
  if 0 ≤ k then (num, den * Nat.pow 10 k.toNat) else (num * Nat.pow 10 (-k).toNat, den)

/-- Whether `digits * 10 ^ k` reads back as the number with this pattern. -/
def readsBack (pattern digits : Nat) (k : Int) : Bool :=
  if 0 ≤ k then nearestPattern (digits * Nat.pow 10 k.toNat) 1 == pattern
  else nearestPattern digits (Nat.pow 10 (-k).toNat) == pattern

/-- The multiple of `10 ^ k` nearest to a number that reads back as it, if there is one. -/
def onGrid? (tie : Tie) (x : Binary64) (k : Int) : Option Decimal :=
  let (m, q) := x.magnitude
  let (num, den) := inUnits m q k
  let below := num / den
  let lowHit := readsBack x.pattern below k
  let highHit := readsBack x.pattern (below + 1) k
  let twice := 2 * (num % den)
  let high :=
    if lowHit && highHit then
      den < twice || (twice == den && (tie == .up || below % 2 == 1))
    else highHit
  if high then some ⟨below + 1, k⟩ else if lowHit then some ⟨below, k⟩ else none

/-- The first grid with a hit, going from coarse to fine. Forty grids are more than enough. -/
def firstHit (tie : Tie) (x : Binary64) : Nat → Int → Decimal
  | 0, k => ⟨1, k⟩
  | more + 1, k =>
    match onGrid? tie x k with
    | some d => d
    | none => firstHit tie x more (k - 1)

/-- Trailing zeros moved into the exponent. -/
def stripZeros : Nat → Decimal → Decimal
  | 0, d => d
  | fuel + 1, d =>
    if d.digits ≠ 0 ∧ d.digits % 10 = 0 then stripZeros fuel ⟨d.digits / 10, d.exponent + 1⟩ else d

/-- The shortest decimal form of the magnitude of a finite number. The grids start one place above
the leading digit; seventeen digits are always enough. -/
def shortest (tie : Tie) (x : Binary64) : Decimal :=
  if x.isZero then ⟨0, 0⟩
  else
    let (m, q) := x.magnitude
    let top : Int := ((m.log2 : Int) + q) * 3 / 10 + 2
    stripZeros 20 (firstHit tie x 40 top)

end Binary64

namespace Decimal

/-- The digits as characters. -/
def chars (d : Decimal) : List Char := Nat.toDigits 10 d.digits

/-- So many zeros. -/
def zeros (n : Nat) : List Char := List.replicate n '0'

/-- The number written out without an exponent, a fraction only if there is one. -/
def positional (d : Decimal) : List Char :=
  let ds := d.chars
  if 0 ≤ d.exponent then ds ++ zeros d.exponent.toNat
  else
    let places := (-d.exponent).toNat
    if places < ds.length then
      ds.take (ds.length - places) ++ '.' :: ds.drop (ds.length - places)
    else '0' :: '.' :: (zeros (places - ds.length) ++ ds)

/-- One digit, a point and the others, and the exponent after `e`. -/
def scientific (d : Decimal) : List Char :=
  let ds := d.chars
  let exponent : Int := d.exponent + ((ds.length : Int) - 1)
  let mantissa := match ds with
    | [] => []
    | [c] => [c]
    | c :: rest => c :: '.' :: rest
  mantissa ++ 'e' :: (toString exponent).toList

/-- A fraction `.0` after a number that shows no point. -/
def withPoint (cs : List Char) : List Char := if cs.contains '.' then cs else cs ++ ['.', '0']

end Decimal

namespace Binary64

/-- A text behind the sign of a number. -/
def signed (x : Binary64) (cs : List Char) : String :=
  String.ofList (if x.isNegative then '-' :: cs else cs)

/-- The name of what is not a finite number. -/
def special? (x : Binary64) (nan infinite : String) : Option String :=
  if x.isNaN then some nan
  else if x.isFinite then none
  else some (if x.isNegative then "-" ++ infinite else infinite)

/-- The number written out in full, always with a fraction: the form used where a message names an
unexpected number. Ties go up. -/
def plainText (x : Binary64) : String :=
  match special? x "NaN" "inf" with
  | some s => s
  | none => signed x (Decimal.withPoint (x.shortest .up).positional)

/-- The form used in documents: written out in full while the point lies within the first sixteen
places or at most five places before the first digit, with an exponent beyond. Ties go to even. -/
def documentDigits (x : Binary64) : String :=
  let d := x.shortest .even
  let point : Int := (d.chars.length : Int) + d.exponent
  if x.isZero ∨ (-5 < point ∧ point ≤ 16) then signed x (Decimal.withPoint d.positional)
  else signed x d.scientific

/-- The document form, with the given names for what is not a number or infinite. -/
def documentText (x : Binary64) (nan infinite : String) : String :=
  (special? x nan infinite).getD x.documentDigits

end Binary64

end RuleCatalog
