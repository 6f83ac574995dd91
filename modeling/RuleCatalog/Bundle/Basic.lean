import RuleCatalog.Bundle.Contents
import RuleCatalog.Bundle.Error
import RuleCatalog.Content.Document

/-! # Bundles

A bundle is a manifest together with the files that it lists. A bundle is loaded from an archive
only if it is intact: the manifest can be read and is valid, and every file that it lists is there
with the content that was listed. The documents in the files are read when they are asked for, and
one that is broken does not affect the others.
-/

namespace RuleCatalog

/-- What a bundle offers to a project: its documents, each of which may turn out to be broken. -/
structure Offering where
  metadata : Metadata
  profile : String → Except Bundle.Error Profile
  /-- The rule types in the order of the manifest. -/
  ruleTypes : List (Except Bundle.Error RuleType)

/-- A loaded bundle. -/
structure Bundle where
  manifest : Manifest
  files : Bundle.Contents

namespace Bundle

/-- The files from where the manifest is: at the top, or else in the only directory at the top that
has one. -/
def Contents.rooted (c : Contents) : Except Error Contents :=
  if (c.get? [Manifest.fileName]).isSome then .ok c
  else
    match c.directoriesWith Manifest.fileName with
    | [] => .error (.missingFile Manifest.fileName)
    | [directory] => .ok (c.inside directory)
    | _ => .error .severalManifests

/-- The path of a listed file. -/
def pathOf (folder : Folder) (f : ManifestFile) : FilePath := [folder.name, f.name]

/-- The content of a listed file. -/
def contentOf (c : Contents) (folder : Folder) (f : ManifestFile) : Except Error ByteArray :=
  match c.get? (pathOf folder f) with
  | some content => .ok content
  | none => .error (.missingFile (folder.path f.name))

/-- Checks that a listed file is there with the content that was listed. -/
def checkFile (c : Contents) (listed : Folder × ManifestFile) : Except Error Unit := do
  let (folder, f) := listed
  let content ← contentOf c folder f
  let expected := f.sha256?.getD ""
  let actual := Digest.sha256Hex content
  if Digest.sameIgnoringCase expected actual then return ()
  else throw (.otherContent (folder.path f.name) expected actual)

/-- The bundle with given contents. -/
def ofContents (contents : Contents) : Except Error Bundle := do
  let files ← contents.rooted
  let text ← match files.get? [Manifest.fileName] with
    | some text => pure text
    | none => throw (.missingFile Manifest.fileName)
  let manifest ← (Manifest.ofBytes text).mapError .unreadableManifest
  manifest.check.mapError .flawed
  manifest.listed.forM (checkFile files)
  return ⟨manifest, files⟩

/-- The bundle with the entries of an archive. -/
def ofEntries (entries : List Archive.Entry) : Except Error Bundle :=
  ofContents (.ofEntries entries)

/-- The bundle in a packed archive. -/
def ofArchive (file : ByteArray) : Except Error Bundle :=
  match Archive.entries (Archive.Gzip.unpack file.data.toList) with
  | some entries => ofEntries entries
  | none => .error .damagedArchive

/-- The bundle in a file. -/
def ofFile (disk : Disk) (path : String) : Except Error Bundle := do
  ofArchive (← (disk.read path).mapError .unreadableFile)

/-! ## Documents -/

/-- Reads the document in a listed file. -/
def document {α : Type} (b : Bundle) (read : ByteArray → Except Yaml.Error α) (folder : Folder)
    (f : ManifestFile) : Except Error α := do
  let content ← contentOf b.files folder f
  (read content).mapError (.brokenDocument (folder.path f.name))

/-- The profile that goes by a name. -/
def profile (b : Bundle) (name : String) : Except Error Profile :=
  match b.manifest.profile? name with
  | some f => b.document Profile.ofYaml .profiles f
  | none => .error (.noProfile name)

/-- All rule types. -/
def ruleTypes (b : Bundle) : List (Except Error RuleType) :=
  b.manifest.ruleTypes.map (b.document RuleType.ofYaml .ruleTypes)

/-- What the bundle offers. -/
def offering (b : Bundle) : Offering := ⟨b.manifest.metadata, b.profile, b.ruleTypes⟩

end Bundle

end RuleCatalog
