import RuleCatalog.Text.Blank

/-! # Bundle ids

A bundle is known by two names: the namespace of its publisher and its own name within it. Two ids
are equal if both names are. The written form puts a slash between them and is used in messages
only, so no name may contain a slash.
-/

namespace RuleCatalog

/-- The names of a bundle. -/
structure BundleId where
  /-- The namespace of the publisher. -/
  space : String
  name : String
  deriving DecidableEq, Repr

namespace BundleId

/-- One of the two names. -/
inductive Part where
  | space
  | name
  deriving DecidableEq, Repr

def Part.word : Part → String
  | .space => "namespace"
  | .name => "name"

/-- Why two texts are no id. -/
inductive Error where
  | empty (part : Part)
  | slash (part : Part) (value : String)
  deriving DecidableEq, Repr

/-- The reason given in messages. -/
def Error.reason : Error → String
  | .empty part => part.word ++ " must not be empty"
  | .slash part value => part.word ++ " '" ++ value ++ "' must not contain '/'"

/-- What a caller is told. -/
def Error.message (e : Error) : String := "invalid bundle id: " ++ e.reason

/-- The written form. -/
def text (id : BundleId) : String := id.space ++ "/" ++ id.name

/-- The order by namespace, then by name. -/
def before (a b : BundleId) : Bool := a.space < b.space || (a.space == b.space && a.name < b.name)

/-- What is wrong with one of the names. -/
def checkPart (part : Part) (value : String) : Except Error Unit :=
  if Text.isBlankText value then .error (.empty part)
  else if value.toList.contains '/' then .error (.slash part value)
  else .ok ()

/-- The id with the given names: neither may be blank or contain a slash. -/
def make (space name : String) : Except Error BundleId := do
  checkPart .space space
  checkPart .name name
  return ⟨space, name⟩

end BundleId

end RuleCatalog
