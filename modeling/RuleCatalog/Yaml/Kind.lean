import RuleCatalog.Decode.Mismatch
import RuleCatalog.Number.Numeral
import RuleCatalog.Number.Shortest
import RuleCatalog.Yaml.Document

/-! # Kinds of scalars

What a scalar stands for. A plain scalar without a tag is the absent value, a boolean, an integer, a
floating point number or else a text, by its spelling. A tag of the core kinds asks for one of them
and refuses every other spelling; under any other tag, and between quotation marks, a scalar is a
text.
-/

namespace RuleCatalog.Yaml

/-- What a scalar stands for. -/
inductive Kind where
  | unit
  | bool (b : Bool)
  /-- An integer that fits into 64 bits, with or without a sign. -/
  | integer (n : Int)
  /-- An integer that fits only into 128 bits. -/
  | wideInteger (n : Int)
  | float (x : Binary64)
  | text (s : String)

def Kind.found : Kind → Found
  | .unit => .unit
  | .bool b => .bool b
  | .integer n => .integer n
  | .wideInteger n => .wideInteger n
  | .float x => .float x
  | .text s => .text s

def isNull (s : String) : Bool := ["null", "Null", "NULL", "~"].contains s

def bool? (s : String) : Option Bool :=
  if ["true", "True", "TRUE"].contains s then some true
  else if ["false", "False", "FALSE"].contains s then some false
  else none

private def dropSign : List Char → List Char
  | '+' :: cs => cs
  | '-' :: cs => cs
  | cs => cs

/-- Digits after a leading zero: no number, whatever the digits. -/
def isZeroPadded (cs : List Char) : Bool :=
  match dropSign cs with
  | '0' :: c :: rest => (c :: rest).all isDigit
  | _ => false

/-- The base that the second character of a numeral names. -/
def baseOf? : Char → Option Nat
  | 'x' => some 16
  | 'o' => some 8
  | 'b' => some 2
  | _ => none

/-- A number without a minus sign, with a base or in decimal digits. -/
def unsigned? (cs : List Char) : Option Nat :=
  let bare := match cs with
    | '+' :: rest => rest
    | cs => cs
  let decimal := if isZeroPadded cs then none else Numeral.natural? 10 bare
  match bare with
  | '0' :: mark :: digits =>
    match baseOf? mark with
    | some base => (Numeral.natural? base digits).or decimal
    | none => decimal
  | _ => decimal

/-- A number with a minus sign, with a base or in decimal digits. -/
def negative? (cs : List Char) : Option Int :=
  let decimal := if isZeroPadded cs then none else Numeral.signed? 10 cs
  match cs with
  | '-' :: '0' :: mark :: digits =>
    match baseOf? mark with
    | some base => ((Numeral.natural? base digits).map fun n => -(n : Int)).or decimal
    | none => decimal
  | '-' :: _ => decimal
  | _ => none

/-- An integer of at most 128 bits. -/
def integer? (s : String) : Option Kind :=
  let value : Option Int := match unsigned? s.toList with
    | some n => some (n : Int)
    | none => negative? s.toList
  value.bind fun n =>
    if -(Int.pow 2 63) ≤ n ∧ n < Int.pow 2 64 then some (.integer n)
    else if -(Int.pow 2 127) ≤ n ∧ n < Int.pow 2 128 then some (.wideInteger n)
    else none

/-- A floating point number: a decimal that is finite, or one of the names of what is not. -/
def float? (s : String) : Option Binary64 :=
  let bare := match s.toList with
    | '+' :: rest => rest
    | cs => cs
  let bareText := String.ofList bare
  if [".inf", ".Inf", ".INF"].contains bareText then some .infinity
  else if ["-.inf", "-.Inf", "-.INF"].contains s then some Binary64.infinity.neg
  else if [".nan", ".NaN", ".NAN"].contains s then some .nan
  else if bare.length < s.length && (bare.head? == some '+' || bare.head? == some '-') then none
  else (Numeral.fraction? bare).filter Binary64.isFinite

/-- The kind of a plain scalar by its spelling. -/
def Kind.ofPlain (s : String) : Kind :=
  if s.isEmpty || isNull s then .unit
  else match bool? s with
    | some b => .bool b
    | none =>
      match integer? s with
      | some kind => kind
      | none =>
        if isZeroPadded s.toList then .text s
        else match float? s with
          | some x => .float x
          | none => .text s

/-- The kind a tag asks for, or the mismatch between the two; none if the tag asks for nothing. -/
def Kind.ofCore? (tag : Tag) (s : String) : Option (Except Mismatch Kind) :=
  let refuse (expected : String) : Except Mismatch Kind := .error (.invalidValue (.text s) expected)
  if tag == Tag.core "bool" then some (match bool? s with
    | some b => .ok (.bool b)
    | none => refuse "a boolean")
  else if tag == Tag.core "int" then some (match integer? s with
    | some kind => .ok kind
    | none => refuse "an integer")
  else if tag == Tag.core "float" then some (match float? s with
    | some x => .ok (.float x)
    | none => refuse "a float")
  else if tag == Tag.core "null" then
    some (if isNull s then .ok .unit else refuse "null")
  else none

/-- The kind of a scalar. With `bare` its tag has been dealt with and does not count. -/
def Scalar.kind (bare : Bool) (s : Scalar) : Except Mismatch Kind :=
  let plainly : Kind := if s.plain then .ofPlain s.text else .text s.text
  match s.tag with
  | none => .ok plainly
  | some tag =>
    if bare then .ok plainly
    else match Kind.ofCore? tag s.text with
      | some outcome => outcome
      | none => .ok (if tag.startsWithMark then plainly else .text s.text)

end RuleCatalog.Yaml
