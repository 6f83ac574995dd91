import RuleCatalog.Bundle.Manifest
import RuleCatalog.FileTree
import RuleCatalog.Yaml.Decode

/-! # Failures of bundles

What can go wrong with a bundle: its archive or its manifest cannot be read, a file that the
manifest lists is missing or is not the one that was listed, or a document in it is broken.
-/

namespace RuleCatalog.Bundle

/-- Why a bundle, or something in it, cannot be had. -/
inductive Error where
  /-- The file of the bundle cannot be read. -/
  | unreadableFile (error : FileTree.Error)
  /-- The file of the bundle is no archive, or a damaged one. -/
  | damagedArchive
  | severalManifests
  | unreadableManifest (error : Json.Error)
  | flawed (flaw : Manifest.Flaw)
  | missingFile (path : String)
  | otherContent (path expected actual : String)
  | noProfile (name : String)
  | brokenDocument (path : String) (error : Yaml.Error)

/-- How damage to an archive is told. -/
def archiveDamage : Report := .plain "<archive>"

/-- What a caller is told. -/
def Error.report : Error → Report
  | .unreadableFile e => .under "failed to read bundle archive" e.report
  | .damagedArchive => .under "failed to read bundle archive" archiveDamage
  | .severalManifests =>
    .plain (Manifest.Flaw.manifestMessage "archive contains more than one manifest")
  | .unreadableManifest e => .under "failed to parse bundle manifest" (.plain e.message)
  | .flawed flaw => .plain flaw.message
  | .missingFile path =>
    .plain ("file '" ++ path ++ "' listed in manifest is missing from bundle")
  | .otherContent path expected actual =>
    .plain ("digest mismatch for '" ++ path ++ "': expected " ++ expected ++ ", got " ++ actual)
  | .noProfile name => .plain ("profile '" ++ name ++ "' not found in bundle")
  | .brokenDocument path e => .under ("failed to parse '" ++ path ++ "'") (.plain e.message)

end RuleCatalog.Bundle
