import RuleCatalog.Yaml.Scanner

/-! # Documents

The nodes of the first document of a stream. Composing a document never fails: where the stream
breaks off, the collections around that place stay open, and the fault is kept beside the nodes. A
decoder that walks the nodes in their order meets it after everything that stands before it.

An anchor is known by a number. The number is how many names have been given to anchors so far, so
that a name given a second time may lead to a number in use; an alias then stands for the node that
got the number last.
-/

namespace RuleCatalog.Yaml

/-- A scalar: its text, its tag, and whether it is written plainly. -/
structure Scalar where
  text : String
  tag : Option Tag
  plain : Bool
  deriving DecidableEq, Repr

/-- The scalar that stands where nothing is written. -/
def Scalar.blank : Scalar := ⟨"", none, true⟩

/-- A node of a document. -/
inductive Node where
  /-- The stream breaks off where a node should start. -/
  | missing
  /-- The stream has no document. -/
  | nothing
  | alias (target : Nat)
  | scalar (anchor : Option Nat) (s : Scalar)
  | sequence (anchor : Option Nat) (tag : Option Tag) (items : List Node) (closed : Bool)
  | mapping (anchor : Option Nat) (tag : Option Tag) (entries : List (Node × Node)) (closed : Bool)

/-- The state of composition: the tokens to come, the names of anchors with their numbers, and the
meanings of tag handles. -/
structure Composer where
  scanner : Scanner
  anchors : List (String × Nat)
  handles : List (List UInt8 × List UInt8)

/-- A part of a document, and the state after it or the fault at which the stream breaks off. -/
abbrev Composed (α : Type) := α × Except Fault Composer

namespace Composer

/-- Looks at the next token. -/
def peek (c : Composer) : Except Fault (Token × Composer) :=
  c.scanner.peek.map fun (token, s) => (token, { c with scanner := s })

def advance (c : Composer) : Composer := { c with scanner := c.scanner.advance }

/-- Looks at the token after the next. -/
def peekAfter (c : Composer) : Except Fault (Token × Composer) := c.advance.peek

/-- Gives a number to the name of an anchor. -/
def bind (c : Composer) (name : Option String) : Option Nat × Composer :=
  match name with
  | none => (none, c)
  | some name =>
    let number := c.anchors.length
    (some number,
      { c with anchors := (name, number) :: c.anchors.filter fun (other, _) => other != name })

def defaultHandles : List (List UInt8 × List UInt8) :=
  [("!".toUTF8.toList, "!".toUTF8.toList), ("!!".toUTF8.toList, "tag:yaml.org,2002:".toUTF8.toList)]

/-- The full name of a tag. -/
def resolve (c : Composer) (handle suffix : List UInt8) : Except Fault Tag :=
  if handle.isEmpty then .ok ⟨suffix⟩
  else match c.handles.lookup handle with
    | some expansion => .ok ⟨expansion ++ suffix⟩
    | none => .error .malformed

end Composer

/-- What may stand in front of a node. -/
structure Properties where
  anchor : Option String
  tag : Option Tag

/-- Takes the anchor and the tag in front of a node, in either order, and looks at the token after
them. -/
def takeProperties (c : Composer) : Except Fault (Properties × Token × Composer) := do
  let (first, c) ← c.peek
  match first with
  | .anchor name =>
    let (second, c) ← c.peekAfter
    match second with
    | .tag handle suffix =>
      let (token, c) ← c.peekAfter
      return (⟨some name, some (← c.resolve handle suffix)⟩, token, c)
    | token => return (⟨some name, none⟩, token, c)
  | .tag handle suffix =>
    let (second, c) ← c.peekAfter
    match second with
    | .anchor name =>
      let (token, c) ← c.peekAfter
      return (⟨some name, some (← c.resolve handle suffix)⟩, token, c)
    | token => return (⟨none, some (← c.resolve handle suffix)⟩, token, c)
  | token => return (⟨none, none⟩, token, c)

/-- Whether a token can only follow a node of a block mapping that is left out. -/
def endsBlockEntry : Token → Bool
  | .key | .value | .blockEnd => true
  | _ => false

mutual

/-- The node at the next token. `block` says whether block collections may start here, `indentless`
whether a sequence may that is not indented. -/
def composeNode (block indentless : Bool) : Nat → Composer → Composed Node
  | 0, _ => (.missing, .error .malformed)
  | fuel + 1, c =>
    match c.peek with
    | .error fault => (.missing, .error fault)
    | .ok (.alias name, c) =>
      match c.anchors.lookup name with
      | some target => (.alias target, .ok c.advance)
      | none => (.missing, .error .unknownAnchor)
    | .ok _ =>
      match takeProperties c with
      | .error fault => (.missing, .error fault)
      | .ok (properties, token, c) =>
        let tag := properties.tag
        let (anchor, c) := c.bind properties.anchor
        match token with
        | .scalar text plain => (.scalar anchor ⟨text, tag, plain⟩, .ok c.advance)
        | .flowSequenceStart =>
          let ((items, closed), after) := composeFlowItems true fuel c.advance
          (.sequence anchor tag items closed, after)
        | .flowMappingStart =>
          let ((entries, closed), after) := composeFlowEntries true fuel c.advance
          (.mapping anchor tag entries closed, after)
        | token =>
          if indentless && token == .blockEntry then
            let ((items, closed), after) := composeItems false fuel c
            (.sequence anchor tag items closed, after)
          else if block && token == .blockSequenceStart then
            let ((items, closed), after) := composeItems true fuel c.advance
            (.sequence anchor tag items closed, after)
          else if block && token == .blockMappingStart then
            let ((entries, closed), after) := composeEntries fuel c.advance
            (.mapping anchor tag entries closed, after)
          else if properties.anchor.isSome || tag.isSome then
            (.scalar anchor ⟨"", tag, true⟩, .ok c)
          else (.missing, .error .malformed)

/-- The items of a block sequence; one that is not indented ends without a mark. -/
def composeItems (indented : Bool) : Nat → Composer → Composed (List Node × Bool)
  | 0, _ => (([], false), .error .malformed)
  | fuel + 1, c =>
    match c.peek with
    | .error fault => (([], false), .error fault)
    | .ok (.blockEntry, c) =>
      match c.peekAfter with
      | .error fault => (([], false), .error fault)
      | .ok (token, c) =>
        let absent := token == .blockEntry || token == .blockEnd ||
          (!indented && (token == .key || token == .value))
        let (item, after) :=
          if absent then (Node.scalar none .blank, .ok c) else composeNode true false fuel c
        match after with
        | .error fault => (([item], false), .error fault)
        | .ok c =>
          let ((items, closed), after) := composeItems indented fuel c
          ((item :: items, closed), after)
    | .ok (token, c) =>
      if !indented then (([], true), .ok c)
      else if token == .blockEnd then (([], true), .ok c.advance)
      else (([], false), .error .malformed)

/-- The entries of a block mapping. -/
def composeEntries : Nat → Composer → Composed (List (Node × Node) × Bool)
  | 0, _ => (([], false), .error .malformed)
  | fuel + 1, c =>
    match c.peek with
    | .error fault => (([], false), .error fault)
    | .ok (.key, c) =>
      match c.peekAfter with
      | .error fault => (([], false), .error fault)
      | .ok (token, c) =>
        let (key, after) :=
          if endsBlockEntry token then (Node.scalar none .blank, .ok c)
          else composeNode true true fuel c
        match after with
        | .error fault => (([(key, .missing)], false), .error fault)
        | .ok c =>
          let (value, after) := composeBlockValue fuel c
          match after with
          | .error fault => (([(key, value)], false), .error fault)
          | .ok c =>
            let ((entries, closed), after) := composeEntries fuel c
            (((key, value) :: entries, closed), after)
    | .ok (.blockEnd, c) => (([], true), .ok c.advance)
    | .ok _ => (([], false), .error .malformed)

/-- The value of an entry of a block mapping. -/
def composeBlockValue : Nat → Composer → Composed Node
  | 0, _ => (.missing, .error .malformed)
  | fuel + 1, c =>
    match c.peek with
    | .error fault => (.missing, .error fault)
    | .ok (.value, c) =>
      match c.peekAfter with
      | .error fault => (.missing, .error fault)
      | .ok (token, c) =>
        if endsBlockEntry token then (.scalar none .blank, .ok c) else composeNode true true fuel c
    | .ok (_, c) => (.scalar none .blank, .ok c)

/-- The items of a flow sequence. An item may be a single entry of a mapping. -/
def composeFlowItems (first : Bool) : Nat → Composer → Composed (List Node × Bool)
  | 0, _ => (([], false), .error .malformed)
  | fuel + 1, c =>
    match c.peek with
    | .error fault => (([], false), .error fault)
    | .ok (.flowSequenceEnd, c) => (([], true), .ok c.advance)
    | .ok (token, c) =>
      let start := if first then .ok (token, c)
        else if token == .flowEntry then c.peekAfter else .error .malformed
      match start with
      | .error fault => (([], false), .error fault)
      | .ok (.flowSequenceEnd, c) => (([], true), .ok c.advance)
      | .ok (token, c) =>
        let (item, after) :=
          if token == .key then composeSingleEntry fuel c.advance
          else composeNode false false fuel c
        match after with
        | .error fault => (([item], false), .error fault)
        | .ok c =>
          let ((items, closed), after) := composeFlowItems false fuel c
          ((item :: items, closed), after)

/-- A mapping with a single entry as an item of a flow sequence. A key that is left out takes the
token in its place with it. -/
def composeSingleEntry : Nat → Composer → Composed Node
  | 0, _ => (.missing, .error .malformed)
  | fuel + 1, c =>
    match c.peek with
    | .error fault => (.mapping none none [] false, .error fault)
    | .ok (token, c) =>
      let (key, after) :=
        if token == .value || token == .flowEntry || token == .flowSequenceEnd then
          (Node.scalar none .blank, .ok c.advance)
        else composeNode false false fuel c
      match after with
      | .error fault => (.mapping none none [(key, .missing)] false, .error fault)
      | .ok c =>
        let (value, after) := composeFlowValue .flowSequenceEnd fuel c
        match after with
        | .error fault => (.mapping none none [(key, value)] false, .error fault)
        | .ok c =>
          match c.peek with
          | .error fault => (.mapping none none [(key, value)] false, .error fault)
          | .ok (_, c) => (.mapping none none [(key, value)] true, .ok c)

/-- The value of an entry in a flow collection that the token `closing` ends. -/
def composeFlowValue (closing : Token) : Nat → Composer → Composed Node
  | 0, _ => (.missing, .error .malformed)
  | fuel + 1, c =>
    match c.peek with
    | .error fault => (.missing, .error fault)
    | .ok (.value, c) =>
      match c.peekAfter with
      | .error fault => (.missing, .error fault)
      | .ok (token, c) =>
        if token == .flowEntry || token == closing then (.scalar none .blank, .ok c)
        else composeNode false false fuel c
    | .ok (_, c) => (.scalar none .blank, .ok c)

/-- The entries of a flow mapping. -/
def composeFlowEntries (first : Bool) : Nat → Composer → Composed (List (Node × Node) × Bool)
  | 0, _ => (([], false), .error .malformed)
  | fuel + 1, c =>
    match c.peek with
    | .error fault => (([], false), .error fault)
    | .ok (.flowMappingEnd, c) => (([], true), .ok c.advance)
    | .ok (token, c) =>
      let start := if first then .ok (token, c)
        else if token == .flowEntry then c.peekAfter else .error .malformed
      match start with
      | .error fault => (([], false), .error fault)
      | .ok (.flowMappingEnd, c) => (([], true), .ok c.advance)
      | .ok (token, c) =>
        let ((key, value), after) := composeFlowEntry (token == .key) fuel c
        match after with
        | .error fault => (([(key, value)], false), .error fault)
        | .ok c =>
          let ((entries, closed), after) := composeFlowEntries false fuel c
          (((key, value) :: entries, closed), after)

/-- An entry of a flow mapping: with a mark, key and value; without one, a key alone. -/
def composeFlowEntry (marked : Bool) : Nat → Composer → Composed (Node × Node)
  | 0, _ => ((.missing, .missing), .error .malformed)
  | fuel + 1, c =>
    if marked then
      match c.peekAfter with
      | .error fault => ((.missing, .missing), .error fault)
      | .ok (token, c) =>
        let (key, after) :=
          if token == .value || token == .flowEntry || token == .flowMappingEnd then
            (Node.scalar none .blank, .ok c)
          else composeNode false false fuel c
        match after with
        | .error fault => ((key, .missing), .error fault)
        | .ok c =>
          let (value, after) := composeFlowValue .flowMappingEnd fuel c
          ((key, value), after)
    else
      let (key, after) := composeNode false false fuel c
      match after with
      | .error fault => ((key, .missing), .error fault)
      | .ok c =>
        match c.peek with
        | .error fault => ((key, .missing), .error fault)
        | .ok (_, c) => ((key, .scalar none .blank), .ok c)

end

/-! ## Streams -/

/-- Adds the meaning of a handle, which may be given once. -/
def addHandle (handles : List (List UInt8 × List UInt8)) (handle expansion : List UInt8) :
    Except Fault (List (List UInt8 × List UInt8)) :=
  if (handles.lookup handle).isSome then .error .malformed else .ok (handles ++ [(handle, expansion)])

/-- The directives in front of a document: one version at most, which has to be known. -/
def takeDirectives : Nat → Bool → Composer → Except Fault Composer
  | 0, _, _ => .error .malformed
  | fuel + 1, versioned, c => do
    let (token, c) ← c.peek
    match token with
    | .versionDirective major minor =>
      if versioned || major != 1 || (minor != 1 && minor != 2) then throw .malformed
      takeDirectives fuel true c.advance
    | .tagDirective handle expansion =>
      let handles ← addHandle c.handles handle expansion
      takeDirectives fuel versioned { c.advance with handles := handles }
    | _ =>
      let missing := Composer.defaultHandles.filter fun (handle, _) =>
        (c.handles.lookup handle).isNone
      return { c with handles := c.handles ++ missing }

/-- Where the content of a document starts. -/
inductive Opening where
  /-- The stream ends. -/
  | noDocument
  /-- The content follows; `marked` if a mark stands in front of it. -/
  | document (marked : Bool) (c : Composer)

/-- Up to the content of the next document. -/
def openDocument (c : Composer) : Except Fault Opening := do
  let (token, c) ← c.peek
  match token with
  | .streamEnd => return .noDocument
  | .versionDirective _ _ | .tagDirective _ _ | .documentStart =>
    let c ← takeDirectives (c.scanner.cursor.size + 3) false c
    let (token, c) ← c.peek
    if token != .documentStart then throw .malformed
    return .document true c.advance
  | _ => return .document false { c with handles := Composer.defaultHandles }

/-- The content of a document after its mark may be left out. -/
def endsDocument : Token → Bool
  | .versionDirective _ _ | .tagDirective _ _ | .documentStart | .documentEnd | .streamEnd => true
  | _ => false

/-- The root of a document. -/
def composeRoot (marked : Bool) (c : Composer) : Composed Node :=
  let fuel := 20 * c.scanner.cursor.size + 50
  match c.peek with
  | .error fault => (.missing, .error fault)
  | .ok (token, c) =>
    if marked && endsDocument token then (.scalar none .blank, .ok c)
    else composeNode true false fuel c

/-- Past the marks that end a document. Whether the stream ends there. -/
def endsStream : Nat → Composer → Except Fault Bool
  | 0, _ => .error .malformed
  | fuel + 1, c => do
    let (token, c) ← c.peek
    if token == .documentEnd then endsStream fuel c.advance else return token == .streamEnd

/-- The first document of a stream. -/
structure Document where
  root : Node
  /-- Where the stream breaks off within the document. -/
  fault : Option Fault
  /-- Whether anything follows the document. -/
  followed : Bool

/-- The first document of the stream with these bytes. -/
def Document.ofBytes (bytes : ByteArray) : Document :=
  let c : Composer := ⟨.ofBytes bytes, [], []⟩
  match c.peek with
  | .error fault => ⟨.missing, some fault, true⟩
  | .ok (_, c) =>
    match openDocument c.advance with
    | .error fault => ⟨.missing, some fault, true⟩
    | .ok .noDocument => ⟨.nothing, none, false⟩
    | .ok (.document marked c) =>
      let (root, after) := composeRoot marked c
      match after.bind Composer.peek with
      | .error fault => ⟨root, some fault, true⟩
      | .ok (_, c) =>
        ⟨root, none, !((endsStream (c.scanner.cursor.size + 3) c).toOption.getD false)⟩

end RuleCatalog.Yaml
