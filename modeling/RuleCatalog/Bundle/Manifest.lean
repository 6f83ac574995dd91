import RuleCatalog.Bundle.Id
import RuleCatalog.Digest.Sha256
import RuleCatalog.Json.Decode
import RuleCatalog.Json.Printer
import RuleCatalog.Timestamp
import RuleCatalog.Version

/-! # Manifests

The manifest of a bundle says which bundle it is, of which version, and which files belong to it,
each with its digest. A manifest passes `check` if its id and version are well formed and every file
has a plain name, given once, and a digest.
-/

namespace RuleCatalog

/-- The two kinds of files in a bundle. -/
inductive Folder where
  | profiles
  | ruleTypes
  deriving DecidableEq, Repr

/-- The name of the directory. -/
def Folder.name : Folder → String
  | .profiles => "profiles"
  | .ruleTypes => "rule_types"

/-- Where a file of a bundle stands. -/
def Folder.path (folder : Folder) (file : String) : String := folder.name ++ "/" ++ file

/-- Which bundle it is. -/
structure Metadata where
  space : String
  name : String
  version : String
  date : Option Timestamp
  deriving DecidableEq, Repr

/-- The id, whether or not its names are well formed. -/
def Metadata.id (m : Metadata) : BundleId := ⟨m.space, m.name⟩

/-- One file with its digests by algorithm, in the order of the algorithms' names. -/
structure ManifestFile where
  name : String
  hashes : List (String × String)
  deriving DecidableEq, Repr

namespace ManifestFile

/-- The name of the algorithm that counts. -/
def algorithm : String := "sha-256"

/-- The digest that counts. -/
def sha256? (f : ManifestFile) : Option String := f.hashes.lookup algorithm

/-- The entry for a file with the given content. -/
def ofContent (name : String) (content : ByteArray) : ManifestFile :=
  ⟨name, [(algorithm, Digest.sha256Hex content)]⟩

end ManifestFile

/-- The manifest of a bundle. -/
structure Manifest where
  metadata : Metadata
  profiles : List ManifestFile
  ruleTypes : List ManifestFile
  deriving DecidableEq, Repr

namespace Manifest

/-- Where the manifest stands in a bundle. -/
def fileName : String := "manifest.json"

/-- The files of one kind. -/
def files (m : Manifest) : Folder → List ManifestFile
  | .profiles => m.profiles
  | .ruleTypes => m.ruleTypes

/-- All files with their kinds, profiles first. -/
def listed (m : Manifest) : List (Folder × ManifestFile) :=
  m.profiles.map (Folder.profiles, ·) ++ m.ruleTypes.map (Folder.ruleTypes, ·)

/-! ## Validity -/

/-- What is wrong with a manifest. -/
inductive Flaw where
  | id (error : BundleId.Error)
  | version (text : String) (error : Version.Error)
  | fileName (folder : Folder) (name : String)
  | duplicateFile (folder : Folder) (name : String)
  | noDigest (folder : Folder) (name : String)
  deriving DecidableEq, Repr

namespace Flaw

/-- The reason given for a flaw that is not one of the id. -/
def manifestMessage (reason : String) : String := "invalid bundle manifest: " ++ reason

/-- What a caller is told. -/
def message : Flaw → String
  | .id e => e.message
  | .version text e =>
    manifestMessage ("version '" ++ text ++ "' is not valid semver: " ++ e.message)
  | .fileName folder name =>
    manifestMessage ("invalid file name '" ++ name ++ "' in " ++ folder.name)
  | .duplicateFile folder name =>
    manifestMessage ("duplicate file '" ++ name ++ "' in " ++ folder.name)
  | .noDigest folder name =>
    manifestMessage ("file '" ++ folder.path name ++ "' has no " ++ ManifestFile.algorithm ++ " hash")

end Flaw

/-- Whether a name stands for a file directly inside a directory. -/
def isPlainName (name : String) : Bool :=
  let cs := name.toList
  !cs.isEmpty && !cs.contains '/' && !cs.contains '\\' && cs != ['.'] && cs != ['.', '.']

/-- What is wrong with the files of one kind, after those with the names `seen`. -/
def checkFiles (folder : Folder) (seen : List String) : List ManifestFile → Except Flaw Unit
  | [] => .ok ()
  | f :: rest =>
    if !isPlainName f.name then .error (.fileName folder f.name)
    else if seen.contains f.name then .error (.duplicateFile folder f.name)
    else if f.sha256?.isNone then .error (.noDigest folder f.name)
    else checkFiles folder (f.name :: seen) rest

/-- What is wrong with a manifest: its id, its version and its files, in this order. -/
def check (m : Manifest) : Except Flaw Unit := do
  match BundleId.make m.metadata.space m.metadata.name with
  | .error e => throw (.id e)
  | .ok _ => pure ()
  match Version.parse m.metadata.version with
  | .error e => throw (.version m.metadata.version e)
  | .ok _ => pure ()
  checkFiles .profiles [] m.profiles
  checkFiles .ruleTypes [] m.ruleTypes

/-! ## Looking up profiles -/

/-- A text without the given ending, if it has it. -/
def withoutEnding? (ending text : List Char) : Option (List Char) :=
  if ending.isSuffixOf text then some (text.take (text.length - ending.length)) else none

/-- The name of a file without the ending of YAML files. -/
def stem? (name : String) : Option String :=
  ((withoutEnding? ".yaml".toList name.toList).or
    (withoutEnding? ".yml".toList name.toList)).map String.ofList

/-- Whether a file goes by a name, with or without its ending. -/
def goesBy (name : String) (f : ManifestFile) : Bool := f.name == name || stem? f.name == some name

/-- The first profile that goes by a name. -/
def profile? (m : Manifest) (name : String) : Option ManifestFile := m.profiles.find? (goesBy name)

/-! ## Written form -/

end Manifest

namespace Metadata

def toValue (m : Metadata) : Json.Value := .object (
  [("namespace", .string m.space), ("name", .string m.name), ("version", .string m.version)] ++
  Json.optionalMember "date" (m.date.map Timestamp.text))

/-- What the members that may be left out are by default. -/
def absent : Metadata := ⟨"", "", "", none⟩

/-- Reads a date; a text is refused with the reason of the timestamp. -/
def readDate (node : Json.Node) : Except Json.Error Timestamp :=
  node.parsed "an RFC 3339 formatted date and time string" fun s =>
    (Timestamp.parse s).mapError Timestamp.Error.message

def fields : List (Field Json.Node (Except Json.Error) Metadata) := [
  .needed "namespace" Json.Node.text fun space m => { m with space := space },
  .needed "name" Json.Node.text fun name m => { m with name := name },
  .needed "version" Json.Node.text fun version m => { m with version := version },
  .optional "date" (Json.Node.optional readDate) fun date m => { m with date := date }]

def decode : Json.Node → Except Json.Error Metadata :=
  Json.Node.record "struct BundleMetadata" fields absent

end Metadata

namespace ManifestFile

def toValue (f : ManifestFile) : Json.Value := .object [
  ("name", .string f.name),
  ("hashes", .object (f.hashes.map fun (algorithm, digest) => (algorithm, .string digest)))]

def fields : List (Field Json.Node (Except Json.Error) ManifestFile) := [
  .needed "name" Json.Node.text fun name f => { f with name := name },
  .optional "hashes" (Json.Node.table Json.Node.text) fun hashes f => { f with hashes := hashes }]

def decode : Json.Node → Except Json.Error ManifestFile :=
  Json.Node.record "struct ManifestFile" fields ⟨"", []⟩

end ManifestFile

namespace Manifest

/-- The files of a manifest, both kinds. -/
structure Files where
  profiles : List ManifestFile
  ruleTypes : List ManifestFile

def Files.fields : List (Field Json.Node (Except Json.Error) Files) := [
  .optional "profiles" (Json.Node.list ManifestFile.decode) fun profiles f =>
    { f with profiles := profiles },
  .optional "ruleTypes" (Json.Node.list ManifestFile.decode) fun ruleTypes f =>
    { f with ruleTypes := ruleTypes }]

def Files.decode : Json.Node → Except Json.Error Files :=
  Json.Node.record "struct ManifestFiles" Files.fields ⟨[], []⟩

def fields : List (Field Json.Node (Except Json.Error) Manifest) := [
  .needed "metadata" Metadata.decode fun metadata m => { m with metadata := metadata },
  .optional "files" Files.decode fun files m =>
    { m with profiles := files.profiles, ruleTypes := files.ruleTypes }]

def decode : Json.Node → Except Json.Error Manifest :=
  Json.Node.record "struct BundleManifest" fields ⟨Metadata.absent, [], []⟩

def toValue (m : Manifest) : Json.Value := .object [
  ("metadata", m.metadata.toValue),
  ("files", .object [
    ("profiles", .array (m.profiles.map ManifestFile.toValue)),
    ("ruleTypes", .array (m.ruleTypes.map ManifestFile.toValue))])]

/-- The text of the manifest file. -/
def toJson (m : Manifest) : String := m.toValue.pretty

/-- Reads the text of a manifest file. -/
def ofJson (text : String) : Except Json.Error Manifest :=
  (Json.Document.ofString text).decode decode

/-- Reads the bytes of a manifest file. -/
def ofBytes (bytes : ByteArray) : Except Json.Error Manifest :=
  (Json.Document.ofBytes bytes).decode decode

end Manifest

end RuleCatalog
