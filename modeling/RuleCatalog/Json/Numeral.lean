import RuleCatalog.Json.Draft
import RuleCatalog.Text.Utf8

/-! # Numerals

Numbers as they are written in JSON, and what they stand for. Without fraction and exponent a
numeral is an integer if it fits into 64 bits, unsigned, or signed after a minus sign. Any other is
a floating point number found in two steps that each round: the leading digits that fit into 64
bits as a whole number, then one multiplication or division by a power of ten. So the result may be
a neighbour of the nearest number. A result that would be infinite is refused.
-/

namespace RuleCatalog.Json

open Text (Glyph)

/-- The parts of a numeral, digits by their value. -/
structure Numeral where
  negative : Bool
  whole : List Nat
  fraction : Option (List Nat)
  /-- The sign (negative or not) and the digits of the exponent. -/
  exponent : Option (Bool × List Nat)
  deriving Repr

/-- The value of a decimal digit. -/
def digitOf? : Glyph → Option Nat
  | some c => if '0' ≤ c ∧ c ≤ '9' then some (c.toNat - '0'.toNat) else none
  | none => none

/-- The digits at the start of a text, and what follows them. -/
def takeDigits : List Glyph → List Nat × List Glyph
  | [] => ([], [])
  | g :: rest =>
    match digitOf? g with
    | some d => let (ds, after) := takeDigits rest; (d :: ds, after)
    | none => ([], g :: rest)

namespace Numeral

/-- Appends digits to a number as long as it stays below `2 ^ 64`; gives the digits left over. -/
def appendDigits (n : Nat) : List Nat → Nat × List Nat
  | [] => (n, [])
  | d :: rest => if n * 10 + d < Nat.pow 2 64 then appendDigits (n * 10 + d) rest else (n, d :: rest)

/-- `m` scaled by a power of ten, in steps of at most 308 places; none if it grows infinite. -/
def scale (m : Binary64) (exponent : Int) : Option Binary64 :=
  if exponent.natAbs ≤ 308 then
    let power := Binary64.ofDecimal false 1 exponent.natAbs
    if 0 ≤ exponent then
      let scaled := m.mul power
      if scaled.isFinite then some scaled else none
    else some (m.div power)
  else if m.isZero then some m
  else if 0 ≤ exponent then none
  else scale (m.div (Binary64.ofDecimal false 1 308)) (exponent + 308)
termination_by exponent.natAbs
decreasing_by omega

/-- The floating point number made of a sign, leading digits and a power of ten. -/
def float? (negative : Bool) (m : Nat) (exponent : Int) : Option Number :=
  (scale (Binary64.ofNat m) exponent).map fun x => .float (if negative then x.neg else x)

/-- What a numeral stands for; none if it is out of range. -/
def value? (n : Numeral) : Option Number :=
  let (m, dropped) := appendDigits 0 n.whole
  match n.fraction, n.exponent with
  | none, none =>
    if dropped ≠ [] then float? n.negative m dropped.length
    else if !n.negative then some (.integer m)
    else if m = 0 ∨ Nat.pow 2 63 < m then some (.float (Binary64.ofNat m).neg)
    else some (.integer (-m))
  | fraction, exponent =>
    let places := fraction.getD []
    let (m', unread) := appendDigits m places
    let start : Int := (dropped.length : Int) - ((places.length - unread.length : Nat) : Int)
    match exponent with
    | none => float? n.negative m' start
    | some (down, ds) =>
      let e : Nat := ds.foldl (fun e d => e * 10 + d) 0
      if Nat.pow 2 31 ≤ e then
        if m' = 0 ∨ down then some (.float (Binary64.ofParts n.negative 0)) else none
      else float? n.negative m' (if down then start - e else start + e)

end Numeral

/-- A numeral at the start of a text: what reading it gives, and what skipping it leaves. -/
structure NumeralReading where
  read : Except Fault Number
  rest : Except Fault (List Glyph)

namespace NumeralReading

/-- A numeral that stops short: at the end of the text reading finds that it ended. -/
def cut (rest : List Glyph) : NumeralReading :=
  ⟨.error (if rest.isEmpty then .ended else .malformed), .error .malformed⟩

/-- A whole numeral. -/
def whole (n : Numeral) (rest : List Glyph) : NumeralReading :=
  ⟨match n.value? with
    | some number => .ok number
    | none => .error .malformed, .ok rest⟩

/-- After the mark of the exponent. -/
def exponent (n : Numeral) (text : List Glyph) : NumeralReading :=
  let (down, text) := match text with
    | some '+' :: rest => (false, rest)
    | some '-' :: rest => (true, rest)
    | text => (false, text)
  match takeDigits text with
  | ([], rest) => cut rest
  | (ds, rest) => whole { n with exponent := some (down, ds) } rest

/-- After the digits before and behind the point. -/
def afterDigits (n : Numeral) : List Glyph → NumeralReading
  | some 'e' :: rest => exponent n rest
  | some 'E' :: rest => exponent n rest
  | rest => whole n rest

/-- A numeral after its sign: no digit may follow a leading zero. -/
def unsigned (negative : Bool) (text : List Glyph) : NumeralReading :=
  match takeDigits text with
  | ([], rest) => cut rest
  | (0 :: _ :: _, _) => ⟨.error .malformed, .error .malformed⟩
  | (ds, some '.' :: rest) =>
    match takeDigits rest with
    | ([], after) => cut after
    | (places, after) => afterDigits ⟨negative, ds, some places, none⟩ after
  | (ds, rest) => afterDigits ⟨negative, ds, none, none⟩ rest

end NumeralReading

/-- A numeral at the start of a text. -/
def readNumeral : List Glyph → NumeralReading
  | some '-' :: rest => .unsigned true rest
  | text => .unsigned false text

end RuleCatalog.Json
