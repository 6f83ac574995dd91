import RuleCatalog.Bundle.Basic
import RuleCatalog.Settings

/-! # Sources

Where a catalog has its bundles from. A source can name the bundles that it serves and hand each of
them out. The source that matters most serves the one bundle in a file: the file is read when the
source is opened, so that a missing or damaged bundle shows at once.
-/

namespace RuleCatalog

namespace Source

/-- Why a source does not do what it is asked for. -/
inductive Error where
  | notServed (id : BundleId)
  | unreachable (reason : String)
  | broken (error : Bundle.Error)

/-- What a caller is told. -/
def Error.report : Error → Report
  | .notServed id => .plain ("bundle " ++ id.text ++ " not found in source")
  | .unreachable reason => .under "failed to read bundle source" (.plain reason)
  | .broken e => .under "invalid bundle" e.report

end Source

/-- Where bundles come from. -/
structure Source where
  /-- What the source is called in messages. -/
  description : String
  ids : Except Source.Error (List BundleId)
  fetch : BundleId → Except Source.Error Offering

/-- A file with one bundle. -/
structure BundleFile where
  location : String
  bundle : Bundle

namespace BundleFile

/-- What a file is called in messages. -/
def describe (location : String) : String := SourceSetting.tarball ++ ":" ++ location

/-- Opens the file at a location. -/
def load (disk : Disk) (location : String) : Except Source.Error BundleFile := do
  let file ← (disk.read location).mapError fun e => .unreachable e.message
  let bundle ← (Bundle.ofArchive file).mapError .broken
  return ⟨location, bundle⟩

/-- The source that serves the bundle in the file. -/
def source (f : BundleFile) : Source where
  description := describe f.location
  ids := .ok [f.bundle.manifest.metadata.id]
  fetch id :=
    if f.bundle.manifest.metadata.id = id then .ok f.bundle.offering else .error (.notServed id)

end BundleFile

end RuleCatalog
