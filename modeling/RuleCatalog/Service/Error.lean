import RuleCatalog.Store.Request

/-! # Failures of services

A service refuses content that makes no sense or that is in the way of other content, and hands on
failures of the store as they are.
-/

namespace RuleCatalog.Service

/-- Why content is not put into a project. -/
inductive Error where
  | ruleTypeName (name : String)
  | noDefinition (ruleType : String)
  | foreignRuleType (name : String)
  | noProfileName
  | noRules (profile : String)
  | unknownRuleType (profile ruleType : String)
  | secondProfile (name : String)
  | store (error : Store.Error)
  deriving DecidableEq, Repr

namespace Error

/-- The groups of failures. -/
inductive Kind where
  | validation
  | conflict
  | store
  deriving DecidableEq, Repr

def kind : Error → Kind
  | .foreignRuleType _ => .conflict
  | .secondProfile _ => .conflict
  | .store _ => .store
  | _ => .validation

/-- What is wrong. -/
def reason : Error → String
  | .ruleTypeName name => "invalid rule type name '" ++ name ++ "'"
  | .noDefinition ruleType => "rule type '" ++ ruleType ++ "' has no definition"
  | .foreignRuleType name =>
    "rule type '" ++ name ++ "' exists in project outside this subscription"
  | .noProfileName => "profile name is empty"
  | .noRules profile => "profile '" ++ profile ++ "' has no rules"
  | .unknownRuleType profile ruleType =>
    "profile '" ++ profile ++ "' references unknown rule type '" ++ ruleType ++ "'"
  | .secondProfile name => "profile '" ++ name ++ "' already exists in project"
  | .store e => e.report.message

/-- What a caller is told. -/
def report (e : Error) : Report :=
  match e.kind with
  | .validation => .plain ("validation failed: " ++ e.reason)
  | .conflict => .plain ("conflict: " ++ e.reason)
  | .store => .plain e.reason

end Error

end RuleCatalog.Service
