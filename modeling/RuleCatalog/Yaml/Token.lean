import RuleCatalog.Yaml.Text

/-! # Tokens of a YAML stream

The words and marks of a stream. Indentation shows up as tokens that start and end block
collections. A tag is kept as bytes, since escapes in it may spell any bytes.
-/

namespace RuleCatalog.Yaml

/-- The full name of a tag. -/
structure Tag where
  bytes : List UInt8
  deriving DecidableEq, Repr

namespace Tag

def ofString (s : String) : Tag := ⟨s.toUTF8.toList⟩

/-- The tags that fix the kind of a scalar. -/
def core (kind : String) : Tag := ofString ("tag:yaml.org,2002:" ++ kind)

def startsWithMark (t : Tag) : Bool := t.bytes.head? == some 0x21

/-- The name behind the mark of a local tag; the lone mark is its own name. -/
def local? (t : Tag) : Option String :=
  match t.bytes with
  | 0x21 :: [] => some "!"
  | 0x21 :: rest => String.fromUTF8? ⟨rest.toArray⟩
  | _ => none

end Tag

/-- One token. -/
inductive Token where
  | streamStart
  | streamEnd
  | versionDirective (major minor : Nat)
  | tagDirective (handle : List UInt8) (expansion : List UInt8)
  | documentStart
  | documentEnd
  | blockSequenceStart
  | blockMappingStart
  | blockEnd
  | flowSequenceStart
  | flowSequenceEnd
  | flowMappingStart
  | flowMappingEnd
  | blockEntry
  | flowEntry
  | key
  | value
  | alias (name : String)
  | anchor (name : String)
  | tag (handle suffix : List UInt8)
  | scalar (text : String) (plain : Bool)
  deriving DecidableEq, Repr

end RuleCatalog.Yaml
