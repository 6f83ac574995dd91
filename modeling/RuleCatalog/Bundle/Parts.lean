import RuleCatalog.Archive.Pack
import RuleCatalog.Bundle.Basic

/-! # Parts of a bundle

What a bundle is put together from: its metadata and the files of both kinds, in order. The manifest
follows from the parts. Packing puts the manifest and the files into an archive, from which the same
bundle can be loaded. The parts can also be gathered from a directory that is laid out like an
archive; its manifest then gives the metadata only.
-/

namespace RuleCatalog

/-- A file of a bundle: its name and its content. -/
abbrev NamedFile := String × ByteArray

/-- What a bundle is put together from. -/
structure BundleParts where
  metadata : Metadata
  profiles : List NamedFile
  ruleTypes : List NamedFile

namespace BundleParts

/-- The entries of the manifest for files. -/
def entriesFor (files : List NamedFile) : List ManifestFile :=
  files.map fun (name, content) => .ofContent name content

/-- The manifest of the bundle. -/
def manifest (p : BundleParts) : Manifest :=
  ⟨p.metadata, entriesFor p.profiles, entriesFor p.ruleTypes⟩

/-! ## Packing -/

/-- Why parts cannot be packed or written. -/
inductive Error where
  | flawed (flaw : Manifest.Flaw)
  | unstorable (path : String)
  | noDirectory (error : FileTree.Error)
  | unwritable (path : String) (error : FileTree.Error)

/-- What a caller is told. -/
def Error.report : Error → Report
  | .flawed flaw => .during "Invalid bundle manifest" (.plain flaw.message)
  | .unstorable path => .during ("Failed to add " ++ path ++ " to archive") Bundle.archiveDamage
  | .noDirectory e => e.report
  | .unwritable path e => .during ("Failed to write bundle: " ++ path) e.report

/-- The files of one kind with their places in the archive. -/
def placed (folder : Folder) (files : List NamedFile) : List Archive.PackedFile :=
  files.map fun (name, content) => ⟨folder.path name, content.data.toList⟩

/-- All files of the archive. -/
def packedFiles (p : BundleParts) : List Archive.PackedFile :=
  ⟨Manifest.fileName, p.manifest.toJson.toUTF8.data.toList⟩ ::
    (placed .profiles p.profiles ++ placed .ruleTypes p.ruleTypes)

/-- The archive before it is packed. -/
def archive (p : BundleParts) : Except Error (List UInt8) := do
  p.manifest.check.mapError .flawed
  (Archive.ofFiles p.packedFiles).mapError .unstorable

/-- The packed archive. -/
def pack (p : BundleParts) : Except Error ByteArray := do
  return ⟨(Archive.Gzip.pack (← p.archive)).toArray⟩

/-- Writes the packed archive to a file, for which directories are made where they are missing. -/
def write (p : BundleParts) (disk : Disk) (path : String) : Except Error Disk := do
  let packed ← p.pack
  let disk ← (disk.makeParents path).mapError .noDirectory
  (disk.write path packed).mapError (.unwritable path)

/-! ## Gathering -/

/-- Why the parts cannot be gathered from a directory. -/
inductive GatherError where
  | unreadableManifest (path : String) (error : FileTree.Error)
  | brokenManifest (path : String) (error : Json.Error)
  | unreadableDirectory (error : FileTree.Error)
  | unreadableFile (path : String) (error : FileTree.Error)

/-- What a caller is told. -/
def GatherError.report : GatherError → Report
  | .unreadableManifest path e => .during ("Failed to read manifest: " ++ path) e.report
  | .brokenManifest path e =>
    .during ("Failed to parse manifest: " ++ path) (Bundle.Error.unreadableManifest e).report
  | .unreadableDirectory e => e.report
  | .unreadableFile path e => .during ("Failed to read " ++ path) e.report

/-- Whether a path leads to a file. -/
def isFile (disk : Disk) (path : String) : Bool :=
  match disk.find path with
  | .ok (.file _) => true
  | _ => false

/-- The names of the files in a directory, those that are no text left out. -/
def fileNames (disk : Disk) (directory : String) (entries : List (FileName × FileTree)) :
    List String :=
  (entries.filterMap fun (name, _) => name.text?).filter fun name =>
    isFile disk (Path.join directory name)

/-- The files in a directory, by name. There are none if there is no directory. -/
def filesIn (disk : Disk) (directory : String) : Except GatherError (List NamedFile) :=
  if disk.contains directory then do
    let entries ← (disk.list directory).mapError .unreadableDirectory
    let files ← (fileNames disk directory entries).mapM fun name => do
      let path := Path.join directory name
      return (name, ← (disk.read path).mapError (GatherError.unreadableFile path))
    return files.mergeSort fun a b => !(b.1 < a.1)
  else .ok []

/-- The parts that a directory holds. -/
def ofDirectory (disk : Disk) (directory : String) : Except GatherError BundleParts := do
  let path := Path.join directory Manifest.fileName
  let text ← (disk.readText path).mapError (.unreadableManifest path)
  let manifest ← (Manifest.ofJson text).mapError (.brokenManifest path)
  let profiles ← filesIn disk (Path.join directory Folder.profiles.name)
  let ruleTypes ← filesIn disk (Path.join directory Folder.ruleTypes.name)
  return ⟨manifest.metadata, profiles, ruleTypes⟩

end BundleParts

end RuleCatalog
