import RuleCatalog.Decode.Form

/-! # Profiles

A profile puts rule types to use: it names them and gives each its parameters. A profile can only
be created where all rule types that it names exist.
-/

namespace RuleCatalog

/-- The use of one rule type. -/
structure ProfileRule where
  /-- The name of the rule type. -/
  ruleType : String
  name : Option String
  /-- What the rule is applied to. -/
  entity : String
  definition : Json.Value
  deriving DecidableEq, Repr

/-- A selection of rule types with their parameters. -/
structure Profile where
  name : String
  displayName : Option String
  labels : List String
  remediate : Option String
  alert : Option String
  rules : List ProfileRule
  deriving DecidableEq, Repr

namespace ProfileRule

/-- What a document says that gives no member but the type. -/
def ofType (ruleType : String) : ProfileRule := ⟨ruleType, none, "repository", .null⟩

/-- Equality, with numbers in the definition compared by their numeric value. -/
def agrees (a b : ProfileRule) : Bool :=
  a.ruleType == b.ruleType && a.name == b.name && a.entity == b.entity &&
    a.definition.agrees b.definition

/-- The written form. -/
def toValue (r : ProfileRule) : Json.Value := .object (
  [("type", .string r.ruleType)] ++ Json.optionalMember "name" r.name ++
  [("entity", .string r.entity), ("def", r.definition)])

/-- The members of a written rule, in their order. -/
def fields {ν : Type} {m : Type → Type} [Monad m] (f : Form ν m) :
    List (Field ν m ProfileRule) := [
  .needed "type" f.text fun ruleType r => { r with ruleType := ruleType },
  .optional "name" (f.optional f.text) fun name r => { r with name := name },
  .optional "entity" f.text fun entity r => { r with entity := entity },
  .optional "def" f.value fun definition r => { r with definition := definition }]

/-- Reads a rule from a document. -/
def decode {ν : Type} {m : Type → Type} [Monad m] (f : Form ν m) : ν → m ProfileRule :=
  f.record "struct ProfileRule" (fields f) (ofType "")

end ProfileRule

/-- Adds a name to names in ascending order, unless it is among them. -/
def insertName (name : String) : List String → List String
  | [] => [name]
  | other :: rest =>
    if name < other then name :: other :: rest
    else if name = other then other :: rest
    else other :: insertName name rest

/-- The distinct names of a list in ascending order. -/
def sortedNames (names : List String) : List String := names.foldr insertName []

namespace Profile

/-- What a document says that gives no member but the name. -/
def named (name : String) : Profile := ⟨name, none, [], none, none, []⟩

/-- The distinct names of the rule types in use, in ascending order. -/
def ruleTypeNames (p : Profile) : List String := sortedNames (p.rules.map ProfileRule.ruleType)

/-- Equality of rules, one by one. -/
def rulesAgree : List ProfileRule → List ProfileRule → Bool
  | [], [] => true
  | a :: as, b :: bs => a.agrees b && rulesAgree as bs
  | _, _ => false

/-- Equality, with numbers in definitions compared by their numeric value. -/
def agrees (a b : Profile) : Bool :=
  a.name == b.name && a.displayName == b.displayName && a.labels == b.labels &&
    a.remediate == b.remediate && a.alert == b.alert && rulesAgree a.rules b.rules

/-- The written form. -/
def toValue (p : Profile) : Json.Value := .object (
  [("name", .string p.name)] ++ Json.optionalMember "display_name" p.displayName ++
  [("labels", .array (p.labels.map .string))] ++ Json.optionalMember "remediate" p.remediate ++
  Json.optionalMember "alert" p.alert ++ [("rules", .array (p.rules.map ProfileRule.toValue))])

/-- The members of a written profile, in their order. -/
def fields {ν : Type} {m : Type → Type} [Monad m] (f : Form ν m) : List (Field ν m Profile) := [
  .needed "name" f.text fun name p => { p with name := name },
  .optional "display_name" (f.optional f.text) fun shown p => { p with displayName := shown },
  .optional "labels" (f.list f.text) fun labels p => { p with labels := labels },
  .optional "remediate" (f.optional f.text) fun remediate p => { p with remediate := remediate },
  .optional "alert" (f.optional f.text) fun alert p => { p with alert := alert },
  .optional "rules" (f.list (ProfileRule.decode f)) fun rules p => { p with rules := rules }]

/-- Reads a profile from a document. -/
def decode {ν : Type} {m : Type → Type} [Monad m] (f : Form ν m) : ν → m Profile :=
  f.record "struct Profile" (fields f) (named "")

end Profile

end RuleCatalog
