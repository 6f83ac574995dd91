import RuleCatalog.Content.Profile
import RuleCatalog.Content.RuleType
import RuleCatalog.Uuid

/-! # Rows

What a store keeps: bundles, subscriptions of projects to them, and the rule types and profiles of
projects. Each row has an id that was issued when it was added. An id names the handle through which
it was issued and counts the ids issued before through the same handle, so no id is issued twice.
-/

namespace RuleCatalog.Store

/-- The number of a transaction. -/
abbrev TxId := Nat

/-- What a store is used through: itself, or one of its transactions. -/
inductive Handle where
  | direct
  | transaction (t : TxId)
  deriving DecidableEq, Repr

/-- The id of a row. -/
inductive RowId where
  | issued (handle : Handle) (serial : Nat)
  /-- An id that comes from elsewhere, and that no row has. -/
  | foreign (id : Uuid)
  deriving DecidableEq, Repr

/-- A known bundle. -/
structure BundleRow where
  id : RowId
  space : String
  name : String
  deriving DecidableEq, Repr

/-- The subscription of a project to a bundle, with the version of the bundle at that time. -/
structure Subscription where
  id : RowId
  project : Uuid
  bundle : RowId
  version : String
  deriving DecidableEq, Repr

/-- Content of a project, except for its id: a rule type or a profile, with the subscription from
which it comes, if it comes from one. -/
structure NewContent (α : Type) where
  project : Uuid
  provider : Uuid
  subscription : Option RowId
  definition : α
  deriving DecidableEq

/-- Content of a project. -/
structure ContentRow (α : Type) extends NewContent α where
  id : RowId
  name : String
  deriving DecidableEq

/-- The row for new content. -/
def NewContent.row {α : Type} (c : NewContent α) (id : RowId) (name : String) : ContentRow α :=
  ⟨c, id, name⟩

/-- The row with another definition. -/
def ContentRow.withDefinition {α β : Type} (r : ContentRow α) (definition : β) : ContentRow β :=
  ⟨⟨r.project, r.provider, r.subscription, definition⟩, r.id, r.name⟩

/-- Whether a row is the one of a name in a project. -/
def ContentRow.isAt {α : Type} (r : ContentRow α) (project : Uuid) (name : String) : Bool :=
  r.project == project && r.name == name

end RuleCatalog.Store
