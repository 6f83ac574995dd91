import RuleCatalog.Number.Binary64

/-! # JSON values

The free-form part of a document: what a rule type or a rule in a profile carries in its definition.
The members of an object stand in the order in which they are to be written; values that come from
a document have them sorted by name, each name once, which `insertMember` maintains.
-/

namespace RuleCatalog.Json

/-- A number, kept apart by how it was written: without or with a fraction or exponent. -/
inductive Number where
  | integer (n : Int)
  | float (x : Binary64)
  deriving DecidableEq, Repr

/-- A JSON value. -/
inductive Value where
  | null
  | bool (b : Bool)
  | number (n : Number)
  | string (s : String)
  | array (items : List Value)
  | object (members : List (String × Value))
  deriving Repr, Inhabited

mutual

/-- Decides whether two values are the same. -/
def Value.decEq : (v w : Value) → Decidable (v = w)
  | .null, .null => .isTrue rfl
  | .bool a, .bool b => decidable_of_iff (a = b) (by simp)
  | .number m, .number n => decidable_of_iff (m = n) (by simp)
  | .string s, .string t => decidable_of_iff (s = t) (by simp)
  | .array xs, .array ys =>
    have := Value.decEqItems xs ys
    decidable_of_iff (xs = ys) (by simp)
  | .object xs, .object ys =>
    have := Value.decEqMembers xs ys
    decidable_of_iff (xs = ys) (by simp)
  | .null, .bool _ | .null, .number _ | .null, .string _ | .null, .array _ | .null, .object _
  | .bool _, .null | .bool _, .number _ | .bool _, .string _ | .bool _, .array _
  | .bool _, .object _ | .number _, .null | .number _, .bool _ | .number _, .string _
  | .number _, .array _ | .number _, .object _ | .string _, .null | .string _, .bool _
  | .string _, .number _ | .string _, .array _ | .string _, .object _ | .array _, .null
  | .array _, .bool _ | .array _, .number _ | .array _, .string _ | .array _, .object _
  | .object _, .null | .object _, .bool _ | .object _, .number _ | .object _, .string _
  | .object _, .array _ => .isFalse nofun

def Value.decEqItems : (xs ys : List Value) → Decidable (xs = ys)
  | [], [] => .isTrue rfl
  | x :: xs, y :: ys =>
    have := Value.decEq x y
    have := Value.decEqItems xs ys
    decidable_of_iff (x = y ∧ xs = ys) (by simp)
  | [], _ :: _ | _ :: _, [] => .isFalse nofun

def Value.decEqMembers : (xs ys : List (String × Value)) → Decidable (xs = ys)
  | [], [] => .isTrue rfl
  | (a, x) :: xs, (b, y) :: ys =>
    have := Value.decEq x y
    have := Value.decEqMembers xs ys
    decidable_of_iff ((a = b ∧ x = y) ∧ xs = ys) (by simp)
  | [], _ :: _ | _ :: _, [] => .isFalse nofun

end

instance : DecidableEq Value := Value.decEq

/-- Adds a member to members sorted by name, in place of one with the same name. -/
def insertMember {α : Type} (name : String) (value : α) : List (String × α) → List (String × α)
  | [] => [(name, value)]
  | (other, old) :: rest =>
    if name < other then (name, value) :: (other, old) :: rest
    else if name = other then (name, value) :: rest
    else (other, old) :: insertMember name value rest

/-- Two numbers agree if they are written alike and have the same numeric value. -/
def Number.agrees : Number → Number → Bool
  | .integer m, .integer n => m == n
  | .float x, .float y => x.numEq y
  | _, _ => false

mutual

/-- Equality of values, with numbers compared by their numeric value. -/
def Value.agrees : Value → Value → Bool
  | .null, .null => true
  | .bool a, .bool b => a == b
  | .number m, .number n => m.agrees n
  | .string s, .string t => s == t
  | .array xs, .array ys => Value.agreesAll xs ys
  | .object xs, .object ys => Value.agreesMembers xs ys
  | _, _ => false

/-- Equality of items, one by one. -/
def Value.agreesAll : List Value → List Value → Bool
  | [], [] => true
  | x :: xs, y :: ys => x.agrees y && Value.agreesAll xs ys
  | _, _ => false

/-- Equality of members, one by one. -/
def Value.agreesMembers : List (String × Value) → List (String × Value) → Bool
  | [], [] => true
  | (a, x) :: xs, (b, y) :: ys => a == b && x.agrees y && Value.agreesMembers xs ys
  | _, _ => false

end

/-- A member that is left out when it has no value. -/
def optionalMember (name : String) : Option String → List (String × Value)
  | some s => [(name, .string s)]
  | none => []

end RuleCatalog.Json
