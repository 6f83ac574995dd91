import RuleCatalog.Decode.Form

/-! # Rule types

A rule type is a reusable check that a bundle brings into a project. Its definition is free-form:
the library carries it along, compares it and stores it, but does not look into it.
-/

namespace RuleCatalog

/-- How serious it is if a check fails. -/
inductive Severity where
  | unknown
  | info
  | low
  | medium
  | high
  | critical
  deriving DecidableEq, Repr

namespace Severity

/-- All severities with their names, in ascending order. -/
def names : List (String × Severity) :=
  [("unknown", .unknown), ("info", .info), ("low", .low), ("medium", .medium), ("high", .high),
    ("critical", .critical)]

def name : Severity → String
  | .unknown => "unknown"
  | .info => "info"
  | .low => "low"
  | .medium => "medium"
  | .high => "high"
  | .critical => "critical"

/-- The severity with the given name. -/
def ofName (s : String) : Severity := (names.lookup s).getD .unknown

theorem ofName_name (s : Severity) : ofName s.name = s := by cases s <;> rfl

end Severity

/-- A reusable check. -/
structure RuleType where
  version : String
  /-- The name by which the rule type is known inside a project. -/
  name : String
  displayName : Option String
  description : String
  guidance : String
  severity : Severity
  definition : Json.Value
  deriving DecidableEq, Repr

namespace RuleType

/-- What a document says that gives no member but the name. -/
def named (name : String) : RuleType := ⟨"v1", name, none, "", "", .unknown, .null⟩

/-- Equality, with numbers in the definition compared by their numeric value. -/
def agrees (a b : RuleType) : Bool :=
  a.version == b.version && a.name == b.name && a.displayName == b.displayName &&
    a.description == b.description && a.guidance == b.guidance && a.severity == b.severity &&
    a.definition.agrees b.definition

/-- The written form. -/
def toValue (r : RuleType) : Json.Value := .object (
  [("version", .string r.version), ("name", .string r.name)] ++
  Json.optionalMember "display_name" r.displayName ++
  [("description", .string r.description), ("guidance", .string r.guidance),
    ("severity", .string r.severity.name), ("def", r.definition)])

/-- The members of a written rule type, in their order. -/
def fields {ν : Type} {m : Type → Type} [Monad m] (f : Form ν m) : List (Field ν m RuleType) := [
  .optional "version" f.text fun version r => { r with version := version },
  .needed "name" f.text fun name r => { r with name := name },
  .optional "display_name" (f.optional f.text) fun shown r => { r with displayName := shown },
  .optional "description" f.text fun description r => { r with description := description },
  .optional "guidance" f.text fun guidance r => { r with guidance := guidance },
  .optional "severity" (f.choice (Severity.names.map Prod.fst)) fun severity r =>
    { r with severity := .ofName severity },
  .optional "def" f.value fun definition r => { r with definition := definition }]

/-- Reads a rule type from a document. -/
def decode {ν : Type} {m : Type → Type} [Monad m] (f : Form ν m) : ν → m RuleType :=
  f.record "struct RuleType" (fields f) (named "")

end RuleType

end RuleCatalog
