/-! # Binary floating point numbers

The numbers of the 64 bit binary format, kept as their bit pattern and computed with exactly: every
operation takes the true value as a quotient of natural numbers and rounds it once, to the nearest
representable number and to the even one of two that are equally near. A value too large for the
format becomes an infinity.
-/

namespace RuleCatalog

/-- A number of the 64 bit binary format, by its bit pattern. -/
structure Binary64 where
  bits : UInt64
  deriving DecidableEq, Repr, Inhabited

namespace Binary64

/-- The bit that carries the sign. -/
def signBit : Nat := Nat.pow 2 63

/-- The pattern of positive infinity. -/
def infinityBits : Nat := 2047 * Nat.pow 2 52

/-- The number with the given sign and the given pattern below the sign bit. -/
def ofParts (negative : Bool) (pattern : Nat) : Binary64 :=
  ⟨UInt64.ofNat (if negative then signBit + pattern else pattern)⟩

def zero : Binary64 := ofParts false 0
def infinity : Binary64 := ofParts false infinityBits
def nan : Binary64 := ofParts false (infinityBits + Nat.pow 2 51)

def isNegative (x : Binary64) : Bool := signBit ≤ x.bits.toNat

/-- The pattern below the sign bit. -/
def pattern (x : Binary64) : Nat := x.bits.toNat % signBit

def isFinite (x : Binary64) : Bool := x.pattern < infinityBits
def isNaN (x : Binary64) : Bool := infinityBits < x.pattern
def isZero (x : Binary64) : Bool := x.pattern == 0

/-- The integer `m` and the exponent `q` with `|x| = m * 2 ^ q`, for a finite `x`. -/
def magnitude (x : Binary64) : Nat × Int :=
  let field : Nat := x.pattern / Nat.pow 2 52
  let fraction : Nat := x.pattern % Nat.pow 2 52
  if field = 0 then (fraction, -1074) else (fraction + Nat.pow 2 52, (field : Int) - 1075)

/-- The same number with the other sign. -/
def neg (x : Binary64) : Binary64 := ofParts (!x.isNegative) x.pattern

/-- The quotient of two natural numbers rounded to the nearest, a tie to the even one. -/
def roundQuotient (num den : Nat) : Nat :=
  let quotient := num / den
  let twice := 2 * (num % den)
  if den < twice ∨ (twice = den ∧ quotient % 2 = 1) then quotient + 1 else quotient

/-- `num * 2 ^ k` over `den`, as a quotient of natural numbers. -/
def scaleQuotient (num den : Nat) (k : Int) : Nat × Nat :=
  if 0 ≤ k then (num * Nat.pow 2 k.toNat, den) else (num, den * Nat.pow 2 (-k).toNat)

/-- The exponent of the highest binary digit of `num / den`. -/
def exponentOf (num den : Nat) : Int :=
  let guess : Int := (num.log2 : Int) - (den.log2 : Int)
  let (high, low) := scaleQuotient num den (-guess)
  if high < low then guess - 1 else guess

/-- The pattern of the number nearest to `num / den`. -/
def nearestPattern (num den : Nat) : Nat :=
  if num = 0 then 0
  else
    let q := max (exponentOf num den - 52) (-1074)
    let (high, low) := scaleQuotient num den (-q)
    min ((q + 1074).toNat * Nat.pow 2 52 + roundQuotient high low) infinityBits

/-- The number nearest to `± num / den * 2 ^ k`. -/
def nearest (negative : Bool) (num den : Nat) (k : Int) : Binary64 :=
  let (high, low) := scaleQuotient num den k
  ofParts negative (nearestPattern high low)

/-- The number nearest to a natural number. -/
def ofNat (n : Nat) : Binary64 := nearest false n 1 0

/-- The number nearest to `± digits * 10 ^ exponent`. Beyond four hundred decimal places on either
side of the point the answer is an infinity or zero without computing the power. -/
def ofDecimal (negative : Bool) (digits : Nat) (exponent : Int) : Binary64 :=
  let places : Int := (digits.log2 : Int) * 3 / 10 + exponent
  if digits = 0 ∨ places < -400 then ofParts negative 0
  else if 400 < places then ofParts negative infinityBits
  else if 0 ≤ exponent then nearest negative (digits * Nat.pow 10 exponent.toNat) 1 0
  else nearest negative digits (Nat.pow 10 (-exponent).toNat) 0

/-- The product of two finite numbers. -/
def mul (x y : Binary64) : Binary64 :=
  let (m, p) := x.magnitude
  let (n, q) := y.magnitude
  nearest (x.isNegative != y.isNegative) (m * n) 1 (p + q)

/-- The quotient of two finite numbers, the second not zero. -/
def div (x y : Binary64) : Binary64 :=
  let (m, p) := x.magnitude
  let (n, q) := y.magnitude
  nearest (x.isNegative != y.isNegative) m n (p - q)

/-- Numeric equality: the two zeros are equal, and no NaN equals anything. -/
def numEq (x y : Binary64) : Bool :=
  !x.isNaN && !y.isNaN && (x == y || (x.isZero && y.isZero))

end Binary64

end RuleCatalog
