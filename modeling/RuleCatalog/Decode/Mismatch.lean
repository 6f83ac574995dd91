import RuleCatalog.Number.Binary64
import RuleCatalog.Text.Quoted

/-! # Mismatches

What can be wrong with a document that is well formed: a value of another kind than the place asks
for, a member that is missing or given twice, a name outside a fixed choice. The notations name the
absence of a value and write numbers differently, so the wording takes a `Wording`.
-/

namespace RuleCatalog

/-- What stands in a place that asks for something else. -/
inductive Found where
  | bool (b : Bool)
  | integer (n : Int)
  /-- An integer beyond 64 bits, with the name of its kind. -/
  | wideInteger (n : Int)
  | float (x : Binary64)
  | text (s : String)
  | unit
  | sequence
  | map
  | tagged
  deriving DecidableEq, Repr

/-- How a document fails to have the expected shape. -/
inductive Mismatch where
  | invalidType (found : Found) (expected : String)
  | invalidValue (found : Found) (expected : String)
  | invalidLength (length : Nat) (expected : String)
  | unknownVariant (name : String) (known : List String)
  | missingField (name : String)
  | duplicateField (name : String)
  deriving DecidableEq, Repr

/-- The words a notation has for what messages mention. -/
structure Wording where
  /-- The name of a value that is absent. -/
  unit : String
  /-- The text of a floating point number. -/
  float : Binary64 → String

namespace Wording

private def ticked (s : String) : String :=
  String.ofList ('\x60' :: (s.toList ++ ['\x60']))

/-- The words for what was found. -/
def found (w : Wording) : Found → String
  | .bool b => "boolean " ++ ticked (toString b)
  | .integer n => "integer " ++ ticked (toString n)
  | .wideInteger n => "integer " ++ ticked (toString n) ++ (if n < 0 then " as i128" else " as u128")
  | .float x => "floating point " ++ ticked (w.float x)
  | .text s => "string " ++ Text.quoted s
  | .unit => w.unit
  | .sequence => "sequence"
  | .map => "map"
  | .tagged => "enum"

/-- The choice between the known names. -/
def oneOf : List String → String
  | [] => "there are no variants"
  | [a] => "expected " ++ ticked a
  | [a, b] => "expected " ++ ticked a ++ " or " ++ ticked b
  | names => "expected one of " ++ String.intercalate ", " (names.map ticked)

/-- The message of a mismatch. -/
def message (w : Wording) : Mismatch → String
  | .invalidType f expected => "invalid type: " ++ w.found f ++ ", expected " ++ expected
  | .invalidValue f expected => "invalid value: " ++ w.found f ++ ", expected " ++ expected
  | .invalidLength n expected => "invalid length " ++ toString n ++ ", expected " ++ expected
  | .unknownVariant name known => "unknown variant " ++ ticked name ++ ", " ++ oneOf known
  | .missingField name => "missing field " ++ ticked name
  | .duplicateField name => "duplicate field " ++ ticked name

end Wording

end RuleCatalog
