import RuleCatalog.Bundle.Basic
import RuleCatalog.Service.Profiles

/-! # Subscribing to bundles

A project that subscribes to a bundle gets all rule types of the bundle; from then on profiles of
the bundle can be created in it. A project that is subscribed already keeps what it has, whatever
the bundle holds by now.

The steps are asked of a store one by one, and the first one that fails ends the operation. What was
written before is not taken back: whoever opened the transaction decides about that.
-/

namespace RuleCatalog.Subscribing

open Store

/-- Why rule types of a bundle are not installed. -/
inductive InstallError where
  | bundle (error : Bundle.Error)
  | service (error : Service.Error)

def InstallError.report : InstallError → Report
  | .bundle e => e.report
  | .service e => e.report

/-- The step that failed, and why. -/
inductive Error where
  | query (error : Store.Error)
  | bundle (error : Store.Error)
  | subscription (error : Store.Error)
  | ruleTypes (error : InstallError)
  | notSubscribed (bundle : BundleId)
  | bundleProfile (error : Bundle.Error)
  | profile (error : Service.Error)

/-- The steps of an operation on a bundle that can fail. -/
inductive Step where
  /-- Finding the source that serves the bundle. -/
  | route
  | fetch
  | query
  | bundle
  | subscription
  | ruleTypes
  /-- Making sure that the project is subscribed. -/
  | subscribed
  | bundleProfile
  | profile
  deriving DecidableEq, Repr

/-- The step that failed. -/
def Error.step : Error → Step
  | .query _ => .query
  | .bundle _ => .bundle
  | .subscription _ => .subscription
  | .ruleTypes _ => .ruleTypes
  | .notSubscribed _ => .subscribed
  | .bundleProfile _ => .bundleProfile
  | .profile _ => .profile

/-- What a caller is told. -/
def Error.report : Error → Report
  | .query e => .under "error while querying subscriptions" e.report
  | .bundle e => .under "error while ensuring bundle exists" e.report
  | .subscription e => .under "error while creating subscription" e.report
  | .ruleTypes e => .under "error while creating rules in project" e.report
  | .notSubscribed id => .plain ("project is not subscribed to bundle " ++ id.text)
  | .bundleProfile e => .under "error while retrieving profile from bundle" e.report
  | .profile e => .under "error while creating profile in project" e.report

/-- Asks for the subscription of a project to the bundle with given metadata. -/
def findSubscription (project : Project) (m : Metadata) : Request :=
  .findSubscription project.id m.space m.name

/-- Installs rule types one after another, up to the first that is broken or refused. -/
def installAll (project : Project) (subscription : RowId) :
    List (Except Bundle.Error RuleType) → Script (Except Error Unit)
  | [] => .done (.ok ())
  | .error e :: _ => .done (.error (.ruleTypes (.bundle e)))
  | .ok r :: rest =>
    (Service.installRuleType project.id project.provider subscription r).andThen fun outcome =>
      match outcome with
      | .error e => .done (.error (.ruleTypes (.service e)))
      | .ok _ => installAll project subscription rest

/-- Subscribes a project to a bundle. -/
def subscribe (project : Project) (o : Offering) : Script (Except Error Unit) :=
  .ask (findSubscription project o.metadata) fun answer =>
    match answer with
    | .ok _ => .done (.ok ())
    | .error .notFound =>
      .ask (.ensureBundle o.metadata.space o.metadata.name) fun answer =>
        match answer with
        | .error e => .done (.error (.bundle e))
        | .ok bundle =>
          .ask (.addSubscription project.id bundle.id o.metadata.version) fun answer =>
            match answer with
            | .error e => .done (.error (.subscription e))
            | .ok subscription => installAll project subscription.id o.ruleTypes
    | .error e => .done (.error (.query e))

/-- Creates a profile of a bundle in a project that is subscribed to the bundle. -/
def addProfile (project : Project) (o : Offering) (name : String) : Script (Except Error Unit) :=
  .ask (findSubscription project o.metadata) fun answer =>
    match answer with
    | .error .notFound => .done (.error (.notSubscribed o.metadata.id))
    | .error e => .done (.error (.query e))
    | .ok subscription =>
      match o.profile name with
      | .error e => .done (.error (.bundleProfile e))
      | .ok p =>
        (Service.createProfile project.id project.provider subscription.id p).andThen fun outcome =>
          match outcome with
          | .error e => .done (.error (.profile e))
          | .ok _ => .done (.ok ())

end RuleCatalog.Subscribing
