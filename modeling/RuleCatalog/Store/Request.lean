import RuleCatalog.Json.Decode
import RuleCatalog.Report
import RuleCatalog.Store.Row

/-! # Requests to a store

The seven things that a store can be asked for, and what it answers. A `Script` is a computation
that asks a store and goes on with the answers; it does not say which store. It is run by a
`Handler`, which answers requests and keeps a state in between.
-/

namespace RuleCatalog.Store

/-- What is wrong with a store itself. -/
inductive Reason where
  | text (s : String)
  /-- A stored definition cannot be read. -/
  | unreadable (e : Json.Error)
  deriving DecidableEq, Repr

instance : Coe String Reason := ⟨.text⟩

def Reason.message : Reason → String
  | .text s => s
  | .unreadable e => "invalid stored definition: " ++ e.message

/-- Why a request fails. -/
inductive Error where
  | notFound
  /-- There is a row already where there may be only one. -/
  | unique (constraint : String)
  /-- There is no row where another row refers to one. -/
  | foreignKey (constraint : String)
  | backend (reason : Reason)
  deriving DecidableEq, Repr

/-- What a caller is told. -/
def Error.message : Error → String
  | .notFound => "no rows in result set"
  | .unique constraint => "unique constraint violated: " ++ constraint
  | .foreignKey constraint => "foreign key constraint violated: " ++ constraint
  | .backend reason => "store backend error: " ++ reason.message

/-- The message, in which it is not repeated what is wrong with a stored definition. -/
def Error.report : Error → Report
  | .backend (.unreadable _) => .plain "store backend error: invalid stored definition: <json>"
  | e => .plain e.message

/-- What a store can be asked for. -/
inductive Request where
  /-- The subscription of a project to the bundle with the given names. -/
  | findSubscription (project : Uuid) (space name : String)
  /-- The bundle with the given names, which is added if it is missing. -/
  | ensureBundle (space name : String)
  | addSubscription (project : Uuid) (bundle : RowId) (version : String)
  /-- Adds a rule type, or replaces the one of its name in its project. -/
  | putRuleType (content : NewContent RuleType)
  | findRuleType (project : Uuid) (name : String)
  | addProfile (content : NewContent Profile)
  | findProfile (project : Uuid) (name : String)

/-- The row with which a request is answered. -/
abbrev Request.Answer : Request → Type
  | .findSubscription .. => Subscription
  | .ensureBundle .. => BundleRow
  | .addSubscription .. => Subscription
  | .putRuleType .. => ContentRow RuleType
  | .findRuleType .. => ContentRow RuleType
  | .addProfile .. => ContentRow Profile
  | .findProfile .. => ContentRow Profile

/-- A computation that asks a store. -/
inductive Script (α : Type) where
  | done (result : α)
  | ask (request : Request) (next : Except Error request.Answer → Script α)

namespace Script

/-- Lets another computation follow. -/
def andThen {α β : Type} : Script α → (α → Script β) → Script β
  | .done a, f => f a
  | .ask r next, f => .ask r fun answer => (next answer).andThen f

/-- Asks and gives the answer. -/
def request (r : Request) : Script (Except Error r.Answer) := .ask r .done

end Script

/-- What answers requests and keeps a state in between. -/
abbrev Handler (σ : Type) := (r : Request) → σ → Except Error r.Answer × σ

/-- Runs a computation. -/
def Script.run {σ α : Type} (h : Handler σ) : Script α → σ → α × σ
  | .done a, s => (a, s)
  | .ask r next, s =>
    let (answer, s) := h r s
    (next answer).run h s

/-- Also keeps the requests, in order. -/
def Handler.recorded {σ : Type} (h : Handler σ) : Handler (σ × List Request) :=
  fun r (s, asked) =>
    let (answer, s) := h r s
    (answer, s, asked ++ [r])

/-! ## Rehearsed failures -/

/-- A failure that is to occur: requests of some kind fail once a number of them were answered. -/
structure Rehearsal where
  concerns : Request → Bool
  error : Error
  /-- How many more requests are answered. -/
  spared : Nat

/-- Lets requests fail as rehearsed. They do not reach the store then. -/
def Handler.rehearsed {σ : Type} (h : Handler σ) : Handler (σ × Option Rehearsal) :=
  fun r (s, rehearsal) =>
    match rehearsal with
    | none =>
      let (answer, s) := h r s
      (answer, s, none)
    | some plan =>
      if plan.concerns r then
        match plan.spared with
        | 0 => (.error plan.error, s, some plan)
        | spared + 1 =>
          let (answer, s) := h r s
          (answer, s, some { plan with spared := spared })
      else
        let (answer, s) := h r s
        (answer, s, some plan)

end RuleCatalog.Store
