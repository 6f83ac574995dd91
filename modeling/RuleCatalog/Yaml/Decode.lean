import RuleCatalog.Decode.Form
import RuleCatalog.Yaml.Kind

/-! # Decoding YAML

The form of a YAML document. An alias is followed wherever it stands, so a small document can stand
for a very large one; therefore the number of aliases followed is bounded by the size of the
document, and nesting by a fixed depth. Members that a record does not know are passed over without
following aliases. A record is never written as a sequence.
-/

namespace RuleCatalog.Yaml

/-- Why a document has no decoded value. -/
inductive Error where
  | fault (fault : Fault)
  | mismatch (m : Mismatch)
  /-- There is no document where a value is needed. -/
  | ended
  | recursionLimit
  | repetitionLimit
  | manyDocuments
  /-- An integer that does not fit into a free-form value. -/
  | numberOutOfRange
  /-- Two entries of a mapping have the same key, given by its text in a message. -/
  | duplicateEntry (key : String)
  deriving Repr

def wording : Wording := ⟨"unit value", Binary64.plainText⟩

/-- The message of an error, in angle brackets. -/
def Error.message : Error → String
  | .fault .malformed => "<yaml syntax>"
  | .fault .unknownAnchor => "<yaml: unknown anchor>"
  | .mismatch m => "<yaml: " ++ wording.message m ++ ">"
  | .ended => "<yaml: EOF while parsing a value>"
  | .recursionLimit => "<yaml: recursion limit exceeded>"
  | .repetitionLimit => "<yaml: repetition limit exceeded>"
  | .manyDocuments =>
    "<yaml: deserializing from YAML containing more than one document is not supported>"
  | .numberOutOfRange => "<yaml: JSON number out of range>"
  | .duplicateEntry key => "<yaml: duplicate entry " ++ key ++ ">"

/-! ## Measures of a document -/

namespace Node

mutual

/-- How many marks and scalars the node consists of: a collection has one at either end. -/
def size : Node → Nat
  | .missing => 0
  | .nothing => 1
  | .alias _ => 1
  | .scalar _ _ => 1
  | .sequence _ _ items closed => sizeOfItems items + (if closed then 2 else 1)
  | .mapping _ _ entries closed => sizeOfEntries entries + (if closed then 2 else 1)

def sizeOfItems : List Node → Nat
  | [] => 0
  | item :: rest => size item + sizeOfItems rest

def sizeOfEntries : List (Node × Node) → Nat
  | [] => 0
  | (key, value) :: rest => size key + size value + sizeOfEntries rest

end

mutual

/-- Adds the node and those in it that have an anchor, the last one first. -/
def addTargets (node : Node) (soFar : List (Nat × Node)) : List (Nat × Node) :=
  let soFar := match node with
    | .scalar (some number) _ => (number, node) :: soFar
    | .sequence (some number) _ _ _ => (number, node) :: soFar
    | .mapping (some number) _ _ _ => (number, node) :: soFar
    | _ => soFar
  match node with
  | .sequence _ _ items _ => addTargetsOfItems items soFar
  | .mapping _ _ entries _ => addTargetsOfEntries entries soFar
  | _ => soFar

def addTargetsOfItems (items : List Node) (soFar : List (Nat × Node)) : List (Nat × Node) :=
  match items with
  | [] => soFar
  | item :: rest => addTargetsOfItems rest (addTargets item soFar)

def addTargetsOfEntries (entries : List (Node × Node)) (soFar : List (Nat × Node)) :
    List (Nat × Node) :=
  match entries with
  | [] => soFar
  | (key, value) :: rest => addTargetsOfEntries rest (addTargets value (addTargets key soFar))

end

mutual

/-- Whether the document breaks off within the node. -/
def isOpen : Node → Bool
  | .missing => true
  | .nothing => false
  | .alias _ => false
  | .scalar _ _ => false
  | .sequence _ _ items closed => !closed || anyItemOpen items
  | .mapping _ _ entries closed => !closed || anyEntryOpen entries

def anyItemOpen : List Node → Bool
  | [] => false
  | item :: rest => isOpen item || anyItemOpen rest

def anyEntryOpen : List (Node × Node) → Bool
  | [] => false
  | (key, value) :: rest => isOpen key || isOpen value || anyEntryOpen rest

end

end Node

/-- What a decoder knows of the whole document. -/
structure Context where
  /-- The nodes that aliases stand for. -/
  targets : List (Nat × Node)
  /-- What is reported where the document breaks off. -/
  fault : Error
  /-- How many aliases may be followed. -/
  jumps : Nat

def Document.context (d : Document) : Context :=
  ⟨d.root.addTargets [], (d.fault.map Error.fault).getD .ended, 100 * d.root.size⟩

/-- Decoding counts the aliases that it has followed. -/
abbrev Decode (α : Type) := StateT Nat (Except Error) α

/-- A place in a document: a node, how many more levels may be entered, and whether its tag has been
dealt with. -/
structure Place where
  context : Context
  depth : Nat
  node : Node
  bare : Bool

/-- How deep collections may be nested. -/
def depthLimit : Nat := 128

def refuse {α : Type} (m : Mismatch) : Decode α := throw (.mismatch m)

/-- The kind of a scalar, or the mismatch with its tag. -/
def kindOf (bare : Bool) (s : Scalar) : Decode Kind :=
  match s.kind bare with
  | .ok kind => pure kind
  | .error m => refuse m

/-- The place that an alias leads to; any other place stays. -/
def Context.follow (context : Context) (node : Node) : Decode (Node × Bool) := do
  match node with
  | .alias target =>
    let followed ← getModify (· + 1)
    if context.jumps < followed + 1 then throw .repetitionLimit
    return ((context.targets.lookup target).getD .missing, true)
  | node => return (node, false)

/-- The levels left inside a collection, if it may be entered. -/
def enter : Nat → Decode Nat
  | depth + 1 => pure depth
  | 0 => throw .recursionLimit

/-- Refuses a node where something else is expected. -/
def unexpected {α : Type} (context : Context) (expected : String) : Node → Decode α
  | .missing => throw context.fault
  | .nothing => throw .ended
  | .alias _ => throw context.fault
  | .scalar _ s => do refuse (.invalidType (← kindOf false s).found expected)
  | .sequence _ _ _ _ => refuse (.invalidType .sequence expected)
  | .mapping _ _ _ _ => refuse (.invalidType .map expected)

/-- Whether the node counts as an empty collection. -/
def isEmptyCollection : Node → Bool
  | .nothing => true
  | .scalar _ s => s.plain && s.text.isEmpty
  | _ => false

/-- The name behind the mark of a node with a local tag. -/
def localTag? (tag : Option Tag) : Option String := tag.bind Tag.local?

/-- The end of a collection: the document may break off there. -/
def finish (context : Context) (closed : Bool) : Decode Unit :=
  if closed then pure () else throw context.fault

/-- The text of a scalar where `expected` is expected. -/
def textOf (context : Context) (expected : String) (node : Node) : Decode String := do
  let (node, _) ← context.follow node
  match node with
  | .scalar _ s => return s.text
  | node => unexpected context expected node

private def anyValue : String := "any valid JSON value"

/-- The free-form value of a kind. What is not a finite number is absent. -/
def Kind.value : Kind → Decode Json.Value
  | .unit => pure .null
  | .bool b => pure (.bool b)
  | .integer n => pure (.number (.integer n))
  | .wideInteger _ => throw .numberOutOfRange
  | .float x => pure (if x.isFinite then .number (.float x) else .null)
  | .text s => pure (.string s)

/-- The free-form value of a node with `depth` levels left. -/
def valueOf (context : Context) : Nat → Node → Decode Json.Value
  | depth, node => do
    let (node, _) ← context.follow node
    match node with
    | .missing => throw context.fault
    | .nothing => return .null
    | .alias _ => throw context.fault
    | .scalar _ s =>
      if (localTag? s.tag).isSome then refuse (.invalidType .tagged anyValue)
      (← kindOf false s).value
    | .sequence _ tag items closed =>
      if (localTag? tag).isSome then refuse (.invalidType .tagged anyValue)
      match depth with
      | 0 => throw .recursionLimit
      | depth + 1 =>
        let values ← items.mapM (valueOf context depth)
        finish context closed
        return .array values
    | .mapping _ tag entries closed =>
      if (localTag? tag).isSome then refuse (.invalidType .tagged anyValue)
      match depth with
      | 0 => throw .recursionLimit
      | depth + 1 =>
        let members ← entries.foldlM (fun (soFar : List (String × Json.Value) × String) entry => do
          let name ← textOf context soFar.2 entry.1
          let value ← valueOf context depth entry.2
          return (Json.insertMember name value soFar.1, "a string")) ([], "a string key")
        finish context closed
        return .object members.1

namespace Place

/-- The place of a child node. -/
def child (p : Place) (depth : Nat) (node : Node) : Place := ⟨p.context, depth, node, false⟩

/-- The place after following an alias. -/
def follow (p : Place) : Decode Place := do
  let (node, jumped) ← p.context.follow p.node
  return { p with node := node, bare := p.bare && !jumped }

def text (p : Place) : Decode String := textOf p.context "a string" p.node

def value (p : Place) : Decode Json.Value := valueOf p.context p.depth p.node

/-- Whether a plain scalar without a tag that counts says that nothing is there. A tag that asks for
nothing refuses everything else. -/
def saysNothing (bare : Bool) (s : Scalar) : Decode Bool := do
  if !s.plain then return false
  match if bare then none else s.tag with
  | none => return s.text.isEmpty || isNull s.text
  | some tag =>
    if tag == Tag.core "null" then
      if isNull s.text then return true else refuse (.invalidValue (.text s.text) "null")
    return false

def optional {α : Type} (read : Place → Decode α) (p : Place) : Decode (Option α) := do
  let p ← p.follow
  match p.node with
  | .missing => throw p.context.fault
  | .nothing => return none
  | .scalar _ s =>
    if ← saysNothing p.bare s then return none else return some (← read p)
  | _ => return some (← read p)

def list {α : Type} (read : Place → Decode α) (p : Place) : Decode (List α) := do
  let p ← p.follow
  match p.node with
  | .sequence _ _ items closed =>
    let depth ← enter p.depth
    let values ← items.mapM fun item => read (p.child depth item)
    finish p.context closed
    return values
  | node => if isEmptyCollection node then return [] else unexpected p.context "a sequence" node

/-- A known name, or the error that lists the known ones. -/
def known (names : List String) (name : String) : Decode String :=
  if names.contains name then pure name else refuse (.unknownVariant name names)

/-- What stands behind a tag that is itself the name of a choice: nothing. -/
def unit (context : Context) : Node → Decode Unit
  | .scalar _ s =>
    if s.plain && (s.text.isEmpty || isNull s.text) then pure ()
    else refuse (.invalidValue (.text s.text) "null")
  | node => unexpected context "unit" node

/-- A name as a scalar, or as a local tag of nothing. -/
def choice (names : List String) (p : Place) : Decode String := do
  let p ← p.follow
  let untagged (found : Found) : Decode String :=
    refuse (.invalidType found "a YAML tag starting with '!'")
  let tagged (name : String) : Decode String := do
    let name ← known names name
    unit p.context p.node
    return name
  match p.node with
  | .scalar _ s =>
    match localTag? s.tag with
    | some name => tagged name
    | none => known names s.text
  | .sequence _ tag _ _ =>
    match localTag? tag with
    | some name => tagged name
    | none => untagged .sequence
  | .mapping _ tag _ _ =>
    match localTag? tag with
    | some name => tagged name
    | none => untagged .map
  | .nothing => throw .ended
  | _ => throw p.context.fault

/-- The members of a record from the entries of a mapping. -/
def recordEntries {σ : Type} (p : Place) (depth : Nat) (fields : List (Field Place Decode σ)) :
    List (Node × Node) → Progress σ → Decode (Progress σ)
  | [], soFar => pure soFar
  | (key, value) :: rest, soFar => do
    let name ← textOf p.context "field identifier" key
    match fields.find? (·.name == name) with
    | none =>
      if value.isOpen then throw p.context.fault
      recordEntries p depth fields rest soFar
    | some field =>
      if soFar.seen.contains name then refuse (.duplicateField name)
      let change ← field.read (p.child depth value)
      recordEntries p depth fields rest ⟨name :: soFar.seen, change soFar.value⟩

/-- A record under construction, complete if no required member is missing. -/
def complete {σ : Type} (fields : List (Field Place Decode σ)) (done : Progress σ) : Decode σ :=
  match firstMissing? fields done.seen with
  | some name => refuse (.missingField name)
  | none => pure done.value

def record {σ : Type} (title : String) (fields : List (Field Place Decode σ)) (absent : σ)
    (p : Place) : Decode σ := do
  let p ← p.follow
  match p.node with
  | .mapping _ _ entries closed =>
    let depth ← enter p.depth
    let done ← recordEntries p depth fields entries ⟨[], absent⟩
    finish p.context closed
    complete fields done
  | node =>
    if isEmptyCollection node then complete fields ⟨[], absent⟩
    else unexpected p.context title node

end Place

/-- The form of a YAML document. -/
def form : Form Place Decode where
  text := Place.text
  value := Place.value
  optional := Place.optional
  list := Place.list
  choice := Place.choice
  record := Place.record

/-- Decodes the first document of a stream, which must be the only one. Where the document breaks
off behind everything that is decoded is looked at last but one, what follows it last. -/
def Document.decode {α : Type} (read : Place → Decode α) (d : Document) : Except Error α := do
  let (a, _) ← (read ⟨d.context, depthLimit, d.root, false⟩).run 0
  match d.fault with
  | some fault => throw (.fault fault)
  | none => if d.followed then throw .manyDocuments else return a

end RuleCatalog.Yaml
