import RuleCatalog.Path
import RuleCatalog.Report

/-! # File trees

Directories, files and symbolic links as a value, and what it means to follow a path through them.
Names are sequences of bytes, since a directory may hold names that are no text. A path is followed
step by step: every step needs a directory to start from, a step up leads to the directory above,
and a symbolic link is replaced by the steps of its target.
-/

namespace RuleCatalog

/-- The name of something in a directory. -/
abbrev FileName := List UInt8

/-- The name that a text stands for. -/
def FileName.ofString (name : String) : FileName := name.toUTF8.data.toList

/-- The text of a name, if it is one. -/
def FileName.text? (name : FileName) : Option String := String.fromUTF8? ⟨name.toArray⟩

/-- A file, a directory or a link. -/
inductive FileTree where
  | file (content : ByteArray)
  | directory (entries : List (FileName × FileTree))
  | link (target : String)

namespace FileTree

/-- Why something cannot be done with a path. -/
inductive Error where
  | notFound
  | notADirectory
  | isADirectory
  | alreadyExists
  | tooManyLinks
  /-- The text of the path has a zero byte. -/
  | zeroInPath
  /-- A name in the path is too long. -/
  | longName
  /-- A file that should hold text does not. -/
  | notText
  deriving DecidableEq, Repr

namespace Error

/-- The name of the kind of failure. -/
def name : Error → String
  | .notFound => "NotFound"
  | .notADirectory => "NotADirectory"
  | .isADirectory => "IsADirectory"
  | .alreadyExists => "AlreadyExists"
  | .tooManyLinks => "FilesystemLoop"
  | .zeroInPath => "InvalidInput"
  | .longName => "InvalidFilename"
  | .notText => "InvalidData"

def message (e : Error) : String := "<io: " ++ e.name ++ ">"

def report (e : Error) : Report := .plain e.message

end Error

/-- An empty directory. -/
def empty : FileTree := .directory []

/-- What stands under a name in a list of entries. -/
def child? (entries : List (FileName × FileTree)) (name : FileName) : Option FileTree :=
  entries.lookup name

/-- What stands at a place, links not followed. -/
def at? : FileTree → List FileName → Option FileTree
  | t, [] => some t
  | .directory entries, name :: rest => (child? entries name).bind (at? · rest)
  | _, _ :: _ => none

/-- The entries with another tree under a name, which may be new. -/
def setEntry (name : FileName) (t : FileTree) :
    List (FileName × FileTree) → List (FileName × FileTree)
  | [] => [(name, t)]
  | (other, u) :: rest =>
    if other = name then (name, t) :: rest else (other, u) :: setEntry name t rest

/-- The tree with another tree at a place whose directory exists. -/
def put (t : FileTree) : List FileName → FileTree → FileTree
  | [], new => new
  | name :: rest, new =>
    match t with
    | .directory entries =>
      .directory (setEntry name (((child? entries name).getD empty).put rest new) entries)
    | other => other

/-! ## Following a path -/

/-- How many links are followed on the way. -/
def maxLinks : Nat := 40

/-- How long a name may be. -/
def maxName : Nat := 255

/-- The place to which steps lead from a place, and what stands there. The last step may lead to
nothing: then the second component is missing. -/
def follow (root : FileTree) (links : Nat) (place : List FileName) :
    List Path.Step → Except Error (List FileName × Option FileTree)
  | [] => .ok (place, root.at? place)
  | step :: rest =>
    match root.at? place with
    | none => .error .notFound
    | some (.directory entries) =>
      match step with
      | .up => follow root links place.dropLast rest
      | .down name =>
        let bytes := FileName.ofString name
        if bytes.length > maxName then .error .longName
        else
          match child? entries bytes with
          | some (.link target) =>
            match links with
            | 0 => .error .tooManyLinks
            | links + 1 =>
              follow root links (if Path.isAbsolute target then [] else place)
                (Path.steps target ++ rest)
          | _ => follow root links (place ++ [bytes]) rest
    | some _ => .error .notADirectory
  termination_by steps => (links, steps.length)

end FileTree

/-- A file tree together with the place from which paths that do not start at the root lead. -/
structure Disk where
  root : FileTree
  place : List FileName

namespace Disk

open FileTree

/-- The steps of a path and the place from which they lead. -/
def start (d : Disk) (path : String) : Except FileTree.Error (List FileName × List Path.Step) :=
  if path.toList.contains '\x00' then .error .zeroInPath
  else if path.isEmpty then .error .notFound
  else .ok (if Path.isAbsolute path then [] else d.place, Path.steps path)

/-- What stands at the end of a path. A path that ends like a directory must lead to one. -/
def find (d : Disk) (path : String) : Except FileTree.Error FileTree := do
  let (place, steps) ← d.start path
  match ← follow d.root maxLinks place steps with
  | (_, none) => throw .notFound
  | (_, some t) =>
    match t with
    | .directory _ => return t
    | _ => if Path.endsInDirectory path then throw .notADirectory else return t

/-- Whether a path leads anywhere. -/
def contains (d : Disk) (path : String) : Bool := (d.find path).toOption.isSome

/-- The content of a file. -/
def read (d : Disk) (path : String) : Except FileTree.Error ByteArray := do
  match ← d.find path with
  | .file content => return content
  | .directory _ => throw .isADirectory
  | .link _ => throw .tooManyLinks

/-- The text of a file. -/
def readText (d : Disk) (path : String) : Except FileTree.Error String := do
  match String.fromUTF8? (← d.read path) with
  | some text => return text
  | none => throw .notText

/-- What a directory holds. -/
def list (d : Disk) (path : String) : Except FileTree.Error (List (FileName × FileTree)) := do
  match ← d.find path with
  | .directory entries => return entries
  | _ => throw .notADirectory

/-! ## Writing -/

/-- Whether steps lead to a directory. -/
def isDirectory (d : Disk) (place : List FileName) (steps : List Path.Step) : Bool :=
  match follow d.root maxLinks place steps with
  | .ok (_, some (.directory _)) => true
  | _ => false

/-- Makes a directory at the end of steps, the last of which must lead to nothing. -/
def makeDirectory (d : Disk) (place : List FileName) (steps : List Path.Step) :
    Except FileTree.Error Disk := do
  match ← follow d.root maxLinks place steps with
  | (_, some _) => throw .alreadyExists
  | (there, none) => return { d with root := d.root.put there empty }

/-- Makes a directory and those above it, the innermost last. -/
def makeDirectories (d : Disk) (place : List FileName) (steps : List Path.Step) :
    Except FileTree.Error Disk :=
  match d.makeDirectory place steps with
  | .ok made => .ok made
  | .error e =>
    if steps ≠ [] ∧ e = .notFound then do
      let above ← d.makeDirectories place steps.dropLast
      match above.makeDirectory place steps with
      | .ok made => .ok made
      | .error e => if above.isDirectory place steps then .ok above else .error e
    else if d.isDirectory place steps then .ok d
    else .error e
  termination_by steps.length
  decreasing_by
    rename_i nonempty
    have := List.length_pos_iff.mpr nonempty.1
    simp [List.length_dropLast]; omega

/-- Writes a file. -/
def write (d : Disk) (path : String) (content : ByteArray) : Except FileTree.Error Disk := do
  let (place, steps) ← d.start path
  match ← follow d.root maxLinks place steps with
  | (_, some (.directory _)) => throw .isADirectory
  | (there, found) =>
    if Path.endsInDirectory path then
      throw (if found.isSome then .notADirectory else .isADirectory)
    else return { d with root := d.root.put there (.file content) }

/-- Makes the directories in which a path ends. -/
def makeParents (d : Disk) (path : String) : Except FileTree.Error Disk := do
  let (place, steps) ← d.start path
  d.makeDirectories place steps.dropLast

end Disk

end RuleCatalog
