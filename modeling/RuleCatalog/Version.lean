import RuleCatalog.Text.Quoted

/-! # Semantic versions

The versions of bundles: three numbers, then optionally a pre-release after a hyphen and build
metadata after a plus sign, each made of segments with points between them. Numbers have no leading
zeros, build metadata excepted, and the three main ones fit into 64 bits.
-/

namespace RuleCatalog

/-- A semantic version; pre-release and build are empty if they are left out. -/
structure Version where
  major : Nat
  minor : Nat
  patch : Nat
  preRelease : List Char
  build : List Char
  deriving DecidableEq, Repr

namespace Version

/-- The parts of a version. -/
inductive Part where
  | major
  | minor
  | patch
  | preRelease
  | build
  deriving DecidableEq, Repr

def Part.name : Part → String
  | .major => "major version number"
  | .minor => "minor version number"
  | .patch => "patch version number"
  | .preRelease => "pre-release identifier"
  | .build => "build metadata"

/-- Why a text is no version. -/
inductive Error where
  | empty
  | unexpectedEnd (part : Part)
  | unexpectedChar (part : Part) (c : Char)
  | unexpectedCharAfter (part : Part) (c : Char)
  | leadingZero (part : Part)
  | overflow (part : Part)
  | emptySegment (part : Part)
  deriving DecidableEq, Repr

def Error.message : Error → String
  | .empty => "empty string, expected a semver version"
  | .unexpectedEnd part => "unexpected end of input while parsing " ++ part.name
  | .unexpectedChar part c =>
    "unexpected character " ++ Text.quotedChar c ++ " while parsing " ++ part.name
  | .unexpectedCharAfter part c =>
    "unexpected character " ++ Text.quotedChar c ++ " after " ++ part.name
  | .leadingZero part => "invalid leading zero in " ++ part.name
  | .overflow part => "value of " ++ part.name ++ " exceeds u64::MAX"
  | .emptySegment part => "empty identifier segment in " ++ part.name

private def isDigit (c : Char) : Bool := '0' ≤ c && c ≤ '9'

/-- The digits of a number that go on after at least one. -/
def moreDigits (part : Part) (n : Nat) : List Char → Except Error (Nat × List Char)
  | [] => .ok (n, [])
  | c :: rest =>
    if !isDigit c then .ok (n, c :: rest)
    else if n = 0 then .error (.leadingZero part)
    else
      let n := n * 10 + (c.toNat - '0'.toNat)
      if n < Nat.pow 2 64 then moreDigits part n rest else .error (.overflow part)

/-- A number at the start of a text. -/
def number (part : Part) : List Char → Except Error (Nat × List Char)
  | [] => .error (.unexpectedEnd part)
  | c :: rest =>
    if isDigit c then moreDigits part (c.toNat - '0'.toNat) rest
    else .error (.unexpectedChar part c)

/-- The text after a point. -/
def point (part : Part) : List Char → Except Error (List Char)
  | '.' :: rest => .ok rest
  | c :: _ => .error (.unexpectedCharAfter part c)
  | [] => .error (.unexpectedEnd part)

/-- The characters of segments. -/
def isSegmentChar (c : Char) : Bool :=
  isDigit c || ('A' ≤ c && c ≤ 'Z') || ('a' ≤ c && c ≤ 'z') || c == '-'

/-- Whether a segment of a pre-release is a number with a leading zero. -/
def isPadded (segment : List Char) : Bool :=
  segment.all isDigit && 1 < segment.length && segment.head? == some '0'

/-- A segment that is complete. -/
def checkSegment (part : Part) (segment : List Char) : Except Error Unit :=
  if segment.isEmpty then .error (.emptySegment part)
  else if part == .preRelease && isPadded segment then .error (.leadingZero part)
  else .ok ()

/-- Segments with points between them, the characters of the present one in reverse. -/
def segments (part : Part) (segment : List Char) : List Char → Except Error (List Char × List Char)
  | [] => do
    checkSegment part segment.reverse
    return (segment.reverse, [])
  | c :: rest =>
    if isSegmentChar c then segments part (c :: segment) rest
    else do
      checkSegment part segment.reverse
      if c = '.' then
        let (more, after) ← segments part [] rest
        return (segment.reverse ++ '.' :: more, after)
      return (segment.reverse, c :: rest)

/-- The segments behind a mark, if the text starts with it. -/
def tagged (part : Part) (mark : Char) (text : List Char) :
    Except Error (Option (List Char) × List Char) :=
  match text with
  | [] => .ok (none, [])
  | c :: rest =>
    if c = mark then (segments part [] rest).map fun (found, after) => (some found, after)
    else .ok (none, c :: rest)

/-- Reads a version. -/
def parse (s : String) : Except Error Version := do
  if s.isEmpty then throw .empty
  let (major, text) ← number .major s.toList
  let text ← point .major text
  let (minor, text) ← number .minor text
  let text ← point .minor text
  let (patch, text) ← number .patch text
  let (preRelease, text) ← tagged .preRelease '-' text
  let (build, text) ← tagged .build '+' text
  match text with
  | [] => return ⟨major, minor, patch, preRelease.getD [], build.getD []⟩
  | c :: _ =>
    let last : Part := if build.isSome then .build else if preRelease.isSome then .preRelease else .patch
    throw (.unexpectedCharAfter last c)

end Version

end RuleCatalog
