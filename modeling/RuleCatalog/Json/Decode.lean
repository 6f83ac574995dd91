import RuleCatalog.Decode.Form
import RuleCatalog.Json.Reader
import RuleCatalog.Number.Shortest

/-! # Decoding JSON

The form of a JSON document. A record may be written as an object, or as an array of its members in
their order; members left out at the end of an array are refused if they are required. Objects and
arrays may be nested up to a limit, which is counted down on the way and not checked for members
that are skipped.
-/

namespace RuleCatalog.Json

/-- Why a text has no decoded value. -/
inductive Error where
  | fault (fault : Fault)
  | mismatch (m : Mismatch)
  /-- The text of a string was refused by the type it was meant for, with that type's message. -/
  | refused (message : String)
  deriving DecidableEq, Repr

/-- JSON calls the absent value `null`, and names numbers as they are written in documents. -/
def wording : Wording := ⟨"null", Binary64.documentDigits⟩

/-- The message of an error, in angle brackets. -/
def Error.message : Error → String
  | .fault .ended => "<json eof>"
  | .fault .malformed => "<json syntax>"
  | .mismatch m => "<json: " ++ wording.message m ++ ">"
  | .refused message => "<json: " ++ message ++ ">"

/-- A place in a draft: a value, and how many more levels may be entered. -/
structure Node where
  draft : Draft
  depth : Nat

/-- How deep arrays and objects may be nested, the last level excluded. -/
def depthLimit : Nat := 128

def liftFault {α : Type} : Except Fault α → Except Error α
  | .ok a => .ok a
  | .error fault => .error (.fault fault)

/-- The levels left inside an array or object, if it may be entered. -/
def enter : Nat → Except Error Nat
  | depth + 2 => .ok (depth + 1)
  | _ => .error (.fault .malformed)

/-- What a number counts as in a message. -/
def Number.found : Number → Found
  | .integer n => .integer n
  | .float x => .float x

/-- Refuses a value where something else is expected. A fault in the value comes first. -/
def unexpected {α : Type} (expected : String) : Draft → Except Error α
  | .missing => .error (.fault .ended)
  | .broken fault => .error (.fault fault)
  | .null => refuse .unit
  | .bool b => refuse (.bool b)
  | .number read _ => do refuse (← liftFault read).found
  | .text read _ => do refuse (.text (← liftFault read))
  | .array _ _ => refuse .sequence
  | .object _ _ => refuse .map
where
  refuse (found : Found) : Except Error α := .error (.mismatch (.invalidType found expected))

namespace Node

/-- A string where `expected` is expected. -/
def textAs (expected : String) (node : Node) : Except Error String :=
  match node.draft with
  | .text read _ => liftFault read
  | draft => unexpected expected draft

def text : Node → Except Error String := textAs "a string"

/-- A string that is refused unless it can be turned into a value. -/
def parsed {α : Type} (expected : String) (parse : String → Except String α) (node : Node) :
    Except Error α := do
  match parse (← node.textAs expected) with
  | .ok a => return a
  | .error message => throw (.refused message)

mutual

/-- The value of a draft, with `depth` levels left. -/
def valueOf (depth : Nat) : Draft → Except Error Value
  | .missing => .error (.fault .ended)
  | .broken fault => .error (.fault fault)
  | .null => .ok .null
  | .bool b => .ok (.bool b)
  | .number read _ => (liftFault read).map .number
  | .text read _ => (liftFault read).map .string
  | .array items ending => do
    let inner ← enter depth
    let values ← valuesOf inner items
    liftFault ending.check
    return .array values
  | .object members ending => do
    let inner ← enter depth
    let values ← membersOf inner [] members
    liftFault ending.check
    return .object values

/-- The values of items. -/
def valuesOf (depth : Nat) : List Draft → Except Error (List Value)
  | [] => .ok []
  | item :: rest => do
    let value ← valueOf depth item
    return value :: (← valuesOf depth rest)

/-- The values of members, added to those before: of two with one name the later stays. -/
def membersOf (depth : Nat) (soFar : List (String × Value)) :
    List (Draft × Draft) → Except Error (List (String × Value))
  | [] => .ok soFar
  | (key, value) :: rest => do
    let name ← liftFault key.name
    let value ← valueOf depth value
    membersOf depth (insertMember name value soFar) rest

end

def value (node : Node) : Except Error Value := valueOf node.depth node.draft

def optional {α : Type} (read : Node → Except Error α) (node : Node) : Except Error (Option α) :=
  match node.draft with
  | .null => .ok none
  | _ => (read node).map some

def list {α : Type} (read : Node → Except Error α) (node : Node) : Except Error (List α) :=
  match node.draft with
  | .array items ending => do
    let inner ← enter node.depth
    let values ← items.mapM fun item => read ⟨item, inner⟩
    liftFault ending.check
    return values
  | draft => unexpected "a sequence" draft

/-- A table from names to values, sorted by name: of two entries with one name the later stays. -/
def table {α : Type} (read : Node → Except Error α) (node : Node) :
    Except Error (List (String × α)) :=
  match node.draft with
  | .object members ending => do
    let inner ← enter node.depth
    let entries ← members.foldlM (fun soFar (key, value) => do
      let name ← liftFault key.name
      return insertMember name (← read ⟨value, inner⟩) soFar) []
    liftFault ending.check
    return entries
  | draft => unexpected "a map" draft

/-- A known name, or the error that lists the known ones. -/
def known (names : List String) (name : String) : Except Error String :=
  if names.contains name then .ok name else .error (.mismatch (.unknownVariant name names))

/-- The absent value, which is all that may stand behind the name of a choice. -/
def unit : Draft → Except Error Unit
  | .null => .ok ()
  | draft => unexpected "unit" draft

/-- A name alone, or an object with that name and nothing as its only member. -/
def choice (names : List String) (node : Node) : Except Error String :=
  match node.draft with
  | .text read _ => do known names (← liftFault read)
  | .object members ending => do
    let inner ← enter node.depth
    match members with
    | [] => throw (.fault (match ending with | .closed => .malformed | .open fault => fault))
    | (key, value) :: rest =>
      let name ← known names (← (Node.mk key inner).textAs "variant identifier")
      unit value
      if !rest.isEmpty then throw (.fault .malformed)
      liftFault ending.check
      return name
  | .missing => throw (.fault .ended)
  | _ => throw (.fault .malformed)

/-- The members of a record from the members of an object. -/
def recordMembers {σ : Type} (depth : Nat) (fields : List (Field Node (Except Error) σ)) :
    List (Draft × Draft) → Progress σ → Except Error (Progress σ)
  | [], soFar => .ok soFar
  | (key, value) :: rest, soFar => do
    let name ← liftFault key.name
    match fields.find? (·.name == name) with
    | none =>
      liftFault value.skip
      recordMembers depth fields rest soFar
    | some field =>
      if soFar.seen.contains name then throw (.mismatch (.duplicateField name))
      let change ← field.read ⟨value, depth⟩
      recordMembers depth fields rest ⟨name :: soFar.seen, change soFar.value⟩

/-- The members of a record from the items of an array; `index` counts the members before. -/
def recordItems {σ : Type} (depth : Nat) (expected : String) (ending : Ending) :
    Nat → List (Field Node (Except Error) σ) → List Draft → σ → Except Error σ
  | _, [], items, soFar => do
    if !items.isEmpty then throw (.fault .malformed)
    liftFault ending.check
    return soFar
  | index, field :: fields, item :: items, soFar => do
    let change ← field.read ⟨item, depth⟩
    recordItems depth expected ending (index + 1) fields items (change soFar)
  | index, field :: fields, [], soFar => do
    liftFault ending.check
    if field.required then throw (.mismatch (.invalidLength index expected))
    recordItems depth expected ending (index + 1) fields [] soFar

/-- How many members a record has, in words. -/
def elements (n : Nat) : String := if n = 1 then "1 element" else toString n ++ " elements"

def record {σ : Type} (title : String) (fields : List (Field Node (Except Error) σ)) (absent : σ)
    (node : Node) : Except Error σ :=
  match node.draft with
  | .object members ending => do
    let inner ← enter node.depth
    let done ← recordMembers inner fields members ⟨[], absent⟩
    liftFault ending.check
    match firstMissing? fields done.seen with
    | some name => throw (.mismatch (.missingField name))
    | none => return done.value
  | .array items ending => do
    let inner ← enter node.depth
    recordItems inner (title ++ " with " ++ elements fields.length) ending 0 fields items absent
  | draft => unexpected title draft

end Node

/-- The form of a JSON document. -/
def form : Form Node (Except Error) where
  text := Node.text
  value := Node.value
  optional := Node.optional
  list := Node.list
  choice := Node.choice
  record := Node.record

/-- Decodes a whole text. What follows the value is looked at last. -/
def Document.decode {α : Type} (read : Node → Except Error α) (document : Document) :
    Except Error α := do
  let a ← read ⟨document.value, depthLimit⟩
  if document.complete then return a else throw (.fault .malformed)

end RuleCatalog.Json
