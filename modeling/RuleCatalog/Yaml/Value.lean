import RuleCatalog.Yaml.Decode

/-! # YAML values

A document as a value, kept whole: with its tags, its kinds of numbers and keys of any kind. Unlike a
free-form value it refuses integers beyond 64 bits and two entries with the same key. What a record
reads from such a value must be of the very kind that it expects, tags aside; nothing counts as an
empty list or an empty record.
-/

namespace RuleCatalog.Yaml

/-- A value of a document. -/
inductive Value where
  | null
  | bool (b : Bool)
  | integer (n : Int)
  | float (x : Binary64)
  | string (s : String)
  | sequence (items : List Value)
  | mapping (entries : List (Value × Value))
  | tagged (tag : String) (value : Value)

namespace Value

/-- Equality of floating point numbers as keys: all that are no number are equal. -/
def sameFloat (x y : Binary64) : Bool := (x.isNaN && y.isNaN) || x.numEq y

mutual

/-- Equality of values; the order of entries does not count. -/
def same : Value → Value → Bool
  | .null, .null => true
  | .bool a, .bool b => a == b
  | .integer m, .integer n => m == n
  | .float x, .float y => sameFloat x y
  | .string s, .string t => s == t
  | .sequence xs, .sequence ys => sameItems xs ys
  | .mapping xs, .mapping ys => xs.length == ys.length && coveredBy xs ys
  | .tagged s x, .tagged t y => s == t && same x y
  | _, _ => false

def sameItems : List Value → List Value → Bool
  | [], [] => true
  | x :: xs, y :: ys => same x y && sameItems xs ys
  | _, _ => false

/-- Whether each entry has an equal one among the others. -/
def coveredBy : List (Value × Value) → List (Value × Value) → Bool
  | [], _ => true
  | (key, value) :: rest, others => hasEntry key value others && coveredBy rest others

/-- Whether an entry equal to this one is among the others. -/
def hasEntry (key value : Value) : List (Value × Value) → Bool
  | [] => false
  | (otherKey, other) :: rest => (same key otherKey && same value other) || hasEntry key value rest

end

/-- How a message names a key that is given twice. -/
def keyText : Value → String
  | .null => "with null key"
  | .bool b => "with key \x60" ++ toString b ++ "\x60"
  | .integer n => "with key " ++ toString n
  | .float x => "with key " ++ x.documentText ".nan" ".inf"
  | .string s => "with key " ++ Text.quoted s
  | _ => "in YAML map"

end Value

private def anyYaml : String := "any YAML value"

/-- The value of a kind. -/
def Kind.yamlValue : Kind → Decode Value
  | .unit => pure .null
  | .bool b => pure (.bool b)
  | .integer n => pure (.integer n)
  | .wideInteger n => refuse (.invalidType (.wideInteger n) anyYaml)
  | .float x => pure (.float x)
  | .text s => pure (.string s)

/-- The value of a node, with the name of its tag around it if it has a local one. -/
def withTag (name : Option String) (value : Value) : Value :=
  match name with
  | some name => .tagged name value
  | none => value

/-- The value of a node with `depth` levels left. The tags of the keys of a mapping do not count if
the mapping has a tag itself. -/
def yamlValueOf (context : Context) : Nat → Bool → Node → Decode Value
  | depth, bare, node => do
    let (node, jumped) ← context.follow node
    let bare := bare && !jumped
    let name (tag : Option Tag) : Option String := if bare then none else localTag? tag
    match node with
    | .missing => throw context.fault
    | .nothing => return .null
    | .alias _ => throw context.fault
    | .scalar _ s =>
      let kind ← kindOf (bare || (name s.tag).isSome) s
      return withTag (name s.tag) (← kind.yamlValue)
    | .sequence _ tag items closed =>
      match depth with
      | 0 => throw .recursionLimit
      | depth + 1 =>
        let values ← items.mapM (yamlValueOf context depth false)
        finish context closed
        return withTag (name tag) (.sequence values)
    | .mapping _ tag entries closed =>
      match depth with
      | 0 => throw .recursionLimit
      | depth + 1 =>
        let bareKeys := bare || (name tag).isSome
        let entries ← entries.foldlM (fun (soFar : List (Value × Value)) entry => do
          let key ← yamlValueOf context depth bareKeys entry.1
          match soFar.find? fun (other, _) => key.same other with
          | some (other, _) => throw (.duplicateEntry other.keyText)
          | none =>
            let value ← yamlValueOf context depth false entry.2
            return soFar ++ [(key, value)]) []
        finish context closed
        return withTag (name tag) (.mapping entries)

/-- The value of the first document of a stream, which must be the only one. -/
def Value.ofBytes (bytes : ByteArray) : Except Error Value :=
  (Document.ofBytes bytes).decode fun p => yamlValueOf p.context p.depth p.bare p.node

namespace Value

/-- The value inside its tags. -/
def untagged : Value → Value
  | .tagged _ value => value.untagged
  | value => value

/-- What a value counts as in a message. -/
def found : Value → Found
  | .null => .unit
  | .bool b => .bool b
  | .integer n => .integer n
  | .float x => .float x
  | .string s => .text s
  | .sequence _ => .sequence
  | .mapping _ => .map
  | .tagged _ _ => .tagged

def refuse {α : Type} (m : Mismatch) : Except Error α := .error (.mismatch m)

def readTextAs (expected : String) (v : Value) : Except Error String :=
  match v.untagged with
  | .string s => .ok s
  | other => refuse (.invalidType other.found expected)

def readText : Value → Except Error String := readTextAs "a string"

def readBool (v : Value) : Except Error Bool :=
  match v.untagged with
  | .bool b => .ok b
  | other => refuse (.invalidType other.found "a boolean")

def readList {α : Type} (read : Value → Except Error α) (v : Value) : Except Error (List α) :=
  match v.untagged with
  | .sequence items => items.mapM read
  | .null => .ok []
  | other => refuse (.invalidType other.found "a sequence")

/-- The members of a record from the entries of a mapping. -/
def readEntries {σ : Type} (fields : List (Field Value (Except Error) σ)) :
    List (Value × Value) → Progress σ → Except Error (Progress σ)
  | [], soFar => .ok soFar
  | (key, value) :: rest, soFar => do
    let name ← key.readTextAs "field identifier"
    match fields.find? (·.name == name) with
    | none => readEntries fields rest soFar
    | some field =>
      if soFar.seen.contains name then refuse (.duplicateField name)
      let change ← field.read value
      readEntries fields rest ⟨name :: soFar.seen, change soFar.value⟩

def readRecord {σ : Type} (title : String) (fields : List (Field Value (Except Error) σ)) (absent : σ)
    (v : Value) : Except Error σ := do
  let entries ← match v.untagged with
    | .mapping entries => pure entries
    | .null => pure []
    | other => refuse (.invalidType other.found title)
  let done ← readEntries fields entries ⟨[], absent⟩
  match firstMissing? fields done.seen with
  | some name => refuse (.missingField name)
  | none => return done.value

/-- The value under a key of a mapping. -/
def get? (key : String) (v : Value) : Option Value :=
  match v.untagged with
  | .mapping entries => (entries.find? fun entry => match entry.1 with
    | .string s => s == key
    | _ => false).map Prod.snd
  | _ => none

end Value

end RuleCatalog.Yaml
