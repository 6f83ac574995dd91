import RuleCatalog.Service.RuleTypes
import RuleCatalog.Text.Blank

/-! # Creating profiles

A profile is created in a project on behalf of a subscription. All rule types that it names must
exist in the project, whatever they come from.
-/

namespace RuleCatalog.Service

open Store

/-- What is wrong with a profile by itself. -/
def checkProfile (p : Profile) : Except Error Unit :=
  if Text.isBlankText p.name then .error .noProfileName
  else if p.rules.isEmpty then .error (.noRules p.name)
  else .ok ()

/-- Checks that rule types exist, one after another. -/
def checkRuleTypes (project : Uuid) (profile : String) : List String → Script (Except Error Unit)
  | [] => .done (.ok ())
  | name :: rest =>
    .ask (.findRuleType project name) fun answer =>
      match answer with
      | .ok _ => checkRuleTypes project profile rest
      | .error .notFound => .done (.error (.unknownRuleType profile name))
      | .error e => .done (.error (.store e))

/-- Writes a profile. -/
def writeProfile (project : Uuid) (provider : Provider) (subscription : RowId) (p : Profile) :
    Script (Except Error Unit) :=
  .ask (.addProfile (installed project provider subscription p)) fun answer =>
    match answer with
    | .ok _ => .done (.ok ())
    | .error (.unique _) => .done (.error (.secondProfile p.name))
    | .error e => .done (.error (.store e))

/-- Creates a profile. -/
def createProfile (project : Uuid) (provider : Provider) (subscription : RowId) (p : Profile) :
    Script (Except Error Unit) :=
  match checkProfile p with
  | .error e => .done (.error e)
  | .ok _ =>
    (checkRuleTypes project p.name p.ruleTypeNames).andThen fun checked =>
      match checked with
      | .error e => .done (.error e)
      | .ok _ => writeProfile project provider subscription p

end RuleCatalog.Service
