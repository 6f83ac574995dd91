import RuleCatalog.Store.Request

/-! # Tables

The rows of a store, in the order in which they were added. There is one bundle of given names, one
subscription of a project to a bundle, and one rule type and one profile of a name in a project; a
subscription refers to a bundle, and content may refer to a subscription. A change that breaks one
of these rules is refused. How that is told, and which of two broken rules is told, depends on the
store and is its `Schema`.

The type of the definitions is left open, since a store may keep them as they are or as text.
-/

namespace RuleCatalog.Store

/-- The tables with content of projects. -/
inductive ContentTable where
  | ruleTypes
  | profiles
  deriving DecidableEq, Repr

/-- How a store tells that a rule is broken. -/
structure Schema where
  missingBundle : String
  secondSubscription : String
  missingSubscription : ContentTable → String
  secondProfile : String
  /-- Whether a missing subscription is told rather than a second profile of the same name. -/
  missingFirst : Bool

/-- Rows of rule types with definitions `ρ` and profiles with definitions `π`. -/
structure Tables (ρ π : Type) where
  bundles : List BundleRow
  subscriptions : List Subscription
  ruleTypes : List (ContentRow ρ)
  profiles : List (ContentRow π)

namespace Tables

variable {ρ π : Type}

/-- No rows. -/
def empty : Tables ρ π := ⟨[], [], [], []⟩

/-! ## Looking up -/

/-- The bundle with given names. -/
def bundle? (t : Tables ρ π) (space name : String) : Option BundleRow :=
  t.bundles.find? fun b => b.space == space && b.name == name

/-- The subscription of a project to the bundle with given names. -/
def subscription? (t : Tables ρ π) (project : Uuid) (space name : String) : Option Subscription :=
  (t.bundle? space name).bind fun b =>
    t.subscriptions.find? fun s => s.project == project && s.bundle == b.id

/-- The rule type of a name in a project. -/
def ruleType? (t : Tables ρ π) (project : Uuid) (name : String) : Option (ContentRow ρ) :=
  t.ruleTypes.find? (·.isAt project name)

/-- The profile of a name in a project. -/
def profile? (t : Tables ρ π) (project : Uuid) (name : String) : Option (ContentRow π) :=
  t.profiles.find? (·.isAt project name)

/-- Whether there is a bundle with an id. -/
def hasBundle (t : Tables ρ π) (id : RowId) : Bool := t.bundles.any (·.id == id)

/-- Whether there is a subscription with an id. -/
def hasSubscription (t : Tables ρ π) (id : RowId) : Bool := t.subscriptions.any (·.id == id)

/-- The rule that content refers to a subscription that there is, if it refers to one. -/
def linked (t : Tables ρ π) (subscription : Option RowId) : Bool :=
  subscription.all t.hasSubscription

/-! ## Changing -/

def addBundle (t : Tables ρ π) (row : BundleRow) : Tables ρ π :=
  { t with bundles := t.bundles ++ [row] }

/-- Adds a subscription to a bundle that there is, unless the project has one to it. -/
def addSubscription (schema : Schema) (t : Tables ρ π) (row : Subscription) :
    Except Error (Tables ρ π) :=
  if !t.hasBundle row.bundle then .error (.foreignKey schema.missingBundle)
  else if t.subscriptions.any fun s => s.project == row.project && s.bundle == row.bundle then
    .error (.unique schema.secondSubscription)
  else .ok { t with subscriptions := t.subscriptions ++ [row] }

/-- Puts a row in the place of the one of its name in its project, which keeps its id, or after all
others if there is none. Gives the row as it is kept. -/
def putRow {α : Type} (row : ContentRow α) : List (ContentRow α) → ContentRow α × List (ContentRow α)
  | [] => (row, [row])
  | other :: rest =>
    if other.isAt row.project row.name then
      let kept := { row with id := other.id }
      (kept, kept :: rest)
    else
      let (kept, rest) := putRow row rest
      (kept, other :: rest)

/-- Puts a rule type. -/
def putRuleType (schema : Schema) (t : Tables ρ π) (row : ContentRow ρ) :
    Except Error (ContentRow ρ × Tables ρ π) :=
  if !t.linked row.subscription then .error (.foreignKey (schema.missingSubscription .ruleTypes))
  else
    let (kept, rows) := putRow row t.ruleTypes
    .ok (kept, { t with ruleTypes := rows })

/-- Adds a profile, unless the project has one of its name. -/
def addProfile (schema : Schema) (t : Tables ρ π) (row : ContentRow π) :
    Except Error (Tables ρ π) :=
  let missing : Error := .foreignKey (schema.missingSubscription .profiles)
  let second : Error := .unique schema.secondProfile
  let isMissing := !t.linked row.subscription
  let isSecond := t.profiles.any (·.isAt row.project row.name)
  if isMissing && (schema.missingFirst || !isSecond) then .error missing
  else if isSecond then .error second
  else .ok { t with profiles := t.profiles ++ [row] }

end Tables

end RuleCatalog.Store
