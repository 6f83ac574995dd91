import RuleCatalog.Source
import RuleCatalog.Subscribing

/-! # Catalogs

A catalog knows which source serves which bundle, and subscribes projects to bundles by their ids. A
bundle that several sources list is served by the last of them. A catalog that is not in use accepts
everything and does nothing.
-/

namespace RuleCatalog

open Store

/-- Which source serves which bundle, the latest first. -/
abbrev Routes := List (BundleId × Source)

/-- A catalog of bundles. -/
inductive Catalog where
  | unused
  | routed (routes : Routes)

namespace Catalog

/-! ## Starting -/

/-- Why a catalog cannot be started. -/
inductive StartError where
  | settings (error : Settings.Error)
  | source (name : String) (error : Source.Error)

/-- What a caller is told. -/
def StartError.report : StartError → Report
  | .settings e => e.report
  | .source name e => .under ("error while loading marketplace source " ++ name) e.report

/-- The routes with those to one more source. -/
def addRoutes (routes : Routes) (source : Source) : Except StartError Routes :=
  match source.ids with
  | .error e => .error (.source source.description e)
  | .ok ids => .ok ((ids.map (·, source)).reverse ++ routes)

/-- The catalog of the bundles that sources list. -/
def ofSources (sources : List Source) : Except StartError Catalog :=
  (sources.foldlM addRoutes []).map .routed

/-- Opens the source that is set. -/
def openSource (disk : Disk) (s : SourceSetting) : Except StartError Source :=
  match BundleFile.load disk s.normalized with
  | .ok file => .ok file.source
  | .error e => .error (.source (BundleFile.describe s.normalized) e)

/-- The catalog that settings describe. Every source is opened at once. -/
def ofSettings (disk : Disk) (s : Settings) : Except StartError Catalog :=
  if !s.enabled then .ok .unused
  else
    match s.check with
    | .error flaw => .error (.settings (.flawed flaw))
    | .ok _ => do ofSources (← s.sources.mapM (openSource disk))

/-- The ids of all bundles, in ascending order. -/
def ids : Catalog → List BundleId
  | .unused => []
  | .routed routes => (routes.map Prod.fst).eraseDups.mergeSort fun a b => !b.before a

/-! ## Operations -/

/-- Why an operation on a bundle fails. -/
inductive Error where
  | unknown (id : BundleId)
  | fetch (id : BundleId) (error : Source.Error)
  | subscribe (id : BundleId) (error : Subscribing.Error)
  | addProfile (id : BundleId) (profile : String) (error : Subscribing.Error)

/-- The step that failed. -/
def Error.step : Error → Subscribing.Step
  | .unknown _ => .route
  | .fetch _ _ => .fetch
  | .subscribe _ e => e.step
  | .addProfile _ _ e => e.step

/-- What a caller is told. -/
def Error.report : Error → Report
  | .unknown id => .plain ("unknown bundle: " ++ id.text)
  | .fetch id e => .under ("error while retrieving bundle " ++ id.text) e.report
  | .subscribe id e => .under ("error while subscribing to bundle " ++ id.text) e.report
  | .addProfile id profile e =>
    .under ("error while adding profile " ++ profile ++ " from bundle " ++ id.text) e.report

/-- What the bundle with an id offers. -/
def resolve (routes : Routes) (id : BundleId) : Except Error Offering :=
  match routes.lookup id with
  | none => .error (.unknown id)
  | some source => (source.fetch id).mapError (.fetch id)

/-- Subscribes a project to the bundle with an id. -/
def subscribe (c : Catalog) (project : Project) (id : BundleId) : Script (Except Error Unit) :=
  match c with
  | .unused => .done (.ok ())
  | .routed routes =>
    match resolve routes id with
    | .error e => .done (.error e)
    | .ok o =>
      (Subscribing.subscribe project o).andThen fun outcome =>
        .done (outcome.mapError (.subscribe id))

/-- Creates a profile of the bundle with an id in a project. -/
def addProfile (c : Catalog) (project : Project) (id : BundleId) (profile : String) :
    Script (Except Error Unit) :=
  match c with
  | .unused => .done (.ok ())
  | .routed routes =>
    match resolve routes id with
    | .error e => .done (.error e)
    | .ok o =>
      (Subscribing.addProfile project o profile).andThen fun outcome =>
        .done (outcome.mapError (.addProfile id profile))

end Catalog

end RuleCatalog
