import RuleCatalog.Archive.Entry
import RuleCatalog.FileTree

/-! # Contents of bundles

The files of an archive by their paths, which are lists of names. Only files with a path that leads
into the archive count: one that starts at the root, steps up, has a name that is no text, or leads
nowhere is passed over. If a path occurs several times its last occurrence counts.

A bundle may stand in the archive itself or in a directory at its top. The place of the manifest
decides.
-/

namespace RuleCatalog.Bundle

/-- The path of a file inside an archive: names of directories and its own name. -/
abbrev FilePath := List String

namespace FilePath

/-- The byte between the names in a written path, and that of which the names of detours consist. -/
def slash : UInt8 := 0x2F
def dot : UInt8 := 0x2E

/-- The path that is written in an archive, if it leads into the archive. -/
def ofBytes? (bytes : List UInt8) : Option FilePath :=
  let names := (Path.segments slash bytes).filter fun name => name != [] && name != [dot]
  if bytes.head? = some slash ∨ [dot, dot] ∈ names ∨ names = [] then none
  else names.mapM FileName.text?

end FilePath

/-- Files by their paths. If a path occurs several times its first occurrence counts. -/
abbrev Contents := List (FilePath × ByteArray)

namespace Contents

/-- The files among the entries of an archive, the last ones first. -/
def ofEntries (entries : List Archive.Entry) : Contents :=
  (entries.filterMap fun e =>
    if e.isFile then (FilePath.ofBytes? e.path).map (·, ⟨e.data.toArray⟩) else none).reverse

/-- The file at a path. -/
def get? (c : Contents) (path : FilePath) : Option ByteArray := c.lookup path

/-- What is in a directory at the top, with paths from there. -/
def inside (c : Contents) (directory : String) : Contents :=
  c.filterMap fun (path, content) =>
    match path with
    | name :: rest => if name = directory then some (rest, content) else none
    | [] => none

/-- The directories at the top that have a file of a given name, each once. -/
def directoriesWith (c : Contents) (file : String) : List String :=
  (c.filterMap fun (path, _) =>
    match path with
    | [directory, name] => if name = file then some directory else none
    | _ => none).eraseDups

end Contents

end RuleCatalog.Bundle
