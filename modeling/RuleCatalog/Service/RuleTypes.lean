import RuleCatalog.Project
import RuleCatalog.Service.Error

/-! # Installing rule types

A rule type is installed into a project on behalf of a subscription. A rule type of the same name is
replaced only if it comes from the same subscription, and nothing is written if it is the same rule
type with the same provider.
-/

namespace RuleCatalog.Service

open Store

/-- Whether a character may stand in the name of a rule type. -/
def isNameChar (c : Char) : Bool := c.isAlphanum || c == '_' || c == '-'

/-- Whether a text may be the name of a rule type. -/
def isRuleTypeName (name : String) : Bool := !name.isEmpty && name.toList.all isNameChar

/-- What is wrong with a rule type by itself. -/
def checkRuleType (r : RuleType) : Except Error Unit :=
  if !isRuleTypeName r.name then .error (.ruleTypeName r.name)
  else
    match r.definition with
    | .null => .error (.noDefinition r.name)
    | _ => .ok ()

/-- The content that a rule type becomes in a project. -/
def installed {α : Type} (project : Uuid) (provider : Provider) (subscription : RowId)
    (definition : α) : NewContent α :=
  ⟨project, provider.id, some subscription, definition⟩

/-- Writes a rule type. -/
def writeRuleType (project : Uuid) (provider : Provider) (subscription : RowId) (r : RuleType) :
    Script (Except Error Unit) :=
  .ask (.putRuleType (installed project provider subscription r)) fun answer =>
    match answer with
    | .ok _ => .done (.ok ())
    | .error e => .done (.error (.store e))

/-- Installs a rule type. -/
def installRuleType (project : Uuid) (provider : Provider) (subscription : RowId) (r : RuleType) :
    Script (Except Error Unit) :=
  match checkRuleType r with
  | .error e => .done (.error e)
  | .ok _ =>
    .ask (.findRuleType project r.name) fun answer =>
      match answer with
      | .ok there =>
        if there.subscription ≠ some subscription then .done (.error (.foreignRuleType r.name))
        else if there.definition.agrees r && there.provider == provider.id then .done (.ok ())
        else writeRuleType project provider subscription r
      | .error .notFound => writeRuleType project provider subscription r
      | .error e => .done (.error (.store e))

end RuleCatalog.Service
