/-! # Paths

Texts that lead to a file: names with slashes between them, starting at the root if a slash comes
first. `Path.Normal` is the form to which a path is brought without looking at any file: the steps
up that are left over, then names to go down. A step up takes back the name before it, and at the
root it leads nowhere.
-/

namespace RuleCatalog.Path

/-- The parts of a list between the occurrences of an element. -/
def segments {α : Type} [DecidableEq α] (slash : α) : List α → List (List α)
  | [] => [[]]
  | c :: rest =>
    if c = slash then [] :: segments slash rest
    else
      match segments slash rest with
      | [] => [[c]]
      | first :: others => (c :: first) :: others

/-- One step of a path. -/
inductive Step where
  | up
  | down (name : String)
  deriving DecidableEq, Repr

/-- The step that a part of a path stands for: no step for an empty part or a lone dot. -/
def Step.ofSegment? (segment : List Char) : Option Step :=
  if segment = [] ∨ segment = ['.'] then none
  else if segment = ['.', '.'] then some .up
  else some (.down (String.ofList segment))

/-- The steps of a path. -/
def steps (path : String) : List Step := (segments '/' path.toList).filterMap Step.ofSegment?

/-- Whether a path starts at the root. -/
def isAbsolute (path : String) : Bool := path.toList.head? == some '/'

/-- Whether a path ends like that of a directory: with a slash or with a lone dot. -/
def endsInDirectory (path : String) : Bool :=
  match (segments '/' path.toList).getLast? with
  | some segment => segment == [] || segment == ['.']
  | none => false

/-- The path that leads from the end of one path along another one. A path that starts at the root
leads nowhere else. -/
def join (base path : String) : String :=
  if isAbsolute path || base.isEmpty then path
  else if base.toList.getLast? == some '/' then base ++ path
  else base ++ "/" ++ path

/-- A path without detours. -/
structure Normal where
  absolute : Bool
  /-- How many steps up come first; none from the root. -/
  ups : Nat
  names : List String
  deriving DecidableEq, Repr

namespace Normal

/-- The path with one more step. -/
def take (p : Normal) : Step → Normal
  | .down name => { p with names := p.names ++ [name] }
  | .up =>
    if !p.names.isEmpty then { p with names := p.names.dropLast }
    else if p.absolute then p
    else { p with ups := p.ups + 1 }

/-- The form of a path without detours. -/
def ofPath (path : String) : Normal := (steps path).foldl take ⟨isAbsolute path, 0, []⟩

/-- The written form; a lone dot if there is nothing else to write. -/
def text (p : Normal) : String :=
  let parts := List.replicate p.ups ".." ++ p.names
  if p.absolute then "/" ++ String.intercalate "/" parts
  else if parts.isEmpty then "." else String.intercalate "/" parts

end Normal

/-- The text of a path without detours. -/
def normalize (path : String) : String := (Normal.ofPath path).text

end RuleCatalog.Path
