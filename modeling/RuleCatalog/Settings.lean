import RuleCatalog.FileTree
import RuleCatalog.Path
import RuleCatalog.Report
import RuleCatalog.Text.Blank
import RuleCatalog.Yaml.Value

/-! # Settings

What a catalog is set up from: whether it is in use at all, and the places its bundles come from, in
the order in which they are gathered. The settings may stand in a document of their own or in a
section of a larger one; a document that says nothing leaves the catalog out of use.
-/

namespace RuleCatalog

/-- One place that bundles come from. -/
structure SourceSetting where
  /-- The kind of place. -/
  kind : String
  location : String
  deriving DecidableEq, Repr

namespace SourceSetting

/-- The only kind of place there is: a packed bundle in a file. -/
def tarball : String := "tarball"

/-- The location without detours. -/
def normalized (s : SourceSetting) : String := Path.normalize s.location

def fields : List (Field Yaml.Value (Except Yaml.Error) SourceSetting) := [
  .needed "type" Yaml.Value.readText fun kind s => { s with kind := kind },
  .needed "location" Yaml.Value.readText fun location s => { s with location := location }]

def decode : Yaml.Value → Except Yaml.Error SourceSetting :=
  Yaml.Value.readRecord "struct SourceConfig" fields ⟨"", ""⟩

end SourceSetting

/-- How a catalog is set up. -/
structure Settings where
  enabled : Bool
  sources : List SourceSetting
  deriving DecidableEq, Repr

namespace Settings

/-- A catalog that is not in use. -/
def disabled : Settings := ⟨false, []⟩

/-- The name of the section. -/
def section? : Yaml.Value → Option Yaml.Value := Yaml.Value.get? "marketplace"

def fields : List (Field Yaml.Value (Except Yaml.Error) Settings) := [
  .optional "enabled" Yaml.Value.readBool fun enabled s => { s with enabled := enabled },
  .optional "sources" (Yaml.Value.readList SourceSetting.decode) fun sources s =>
    { s with sources := sources }]

def decode (v : Yaml.Value) : Except Yaml.Error Settings :=
  match v.untagged with
  | .null => .ok disabled
  | _ => v.readRecord "struct MarketplaceConfig" fields disabled

/-- Reads the text of a document. -/
def ofYaml (text : String) : Except Yaml.Error Settings := do
  let v ← Yaml.Value.ofBytes text.toUTF8
  decode ((section? v).getD v)

/-- What keeps settings from being used. -/
inductive Flaw where
  | noSources
  | unknownKind (kind location : String)
  | emptyLocation (kind : String)
  deriving DecidableEq, Repr

/-- What is wrong with one source. -/
def checkSource (s : SourceSetting) : Except Flaw Unit :=
  if s.kind != SourceSetting.tarball then .error (.unknownKind s.kind s.location)
  else if Text.isBlankText s.location then .error (.emptyLocation s.kind)
  else .ok ()

/-- What is wrong with settings: nothing if they leave the catalog out of use. -/
def check (s : Settings) : Except Flaw Unit :=
  if !s.enabled then .ok ()
  else if s.sources.isEmpty then .error .noSources
  else s.sources.forM checkSource

/-! ## Failures -/

/-- Why there are no settings to use. -/
inductive Error where
  | unreadable (path : String) (error : FileTree.Error)
  | broken (error : Yaml.Error)
  | flawed (flaw : Flaw)

/-- What a caller is told. -/
def Flaw.message : Flaw → String
  | .noSources => "marketplace is enabled but no sources are configured"
  | .unknownKind kind location =>
    "unknown marketplace source type '" ++ kind ++ "' for " ++ location
  | .emptyLocation kind =>
    "invalid marketplace source: " ++ kind ++ " source has an empty location"

/-- What a caller is told. -/
def Error.report : Error → Report
  | .unreadable path e => .under ("failed to read marketplace config " ++ path) e.report
  | .broken e => .under "failed to parse marketplace config" (.plain e.message)
  | .flawed flaw => .plain flaw.message

/-- Reads a file. A catalog without a file for its settings is not in use. -/
def ofFile (disk : Disk) (path : String) : Except Error Settings :=
  if disk.contains path then do
    let text ← (disk.readText path).mapError (.unreadable path)
    (ofYaml text).mapError .broken
  else .ok disabled

end Settings

end RuleCatalog
