import RuleCatalog.Yaml.Scalar
import RuleCatalog.Yaml.Token

/-! # From text to tokens

Tokens are found one after the other, each only when it is asked for, so that a fault of the text
shows up no earlier than where a reader of the tokens gets to it. A key of a mapping is known as
such only by the colon after it. Until then the place of a token that may start a key is kept; the
token is held back, and when the colon comes, the marks of the key and of the mapping are put in
front of it. A key without a mark of its own lies within one line and has at most 1024 characters.
-/

namespace RuleCatalog.Yaml

/-- The place of a token that may start a key. -/
structure KeyPlace where
  possible : Bool
  /-- Whether a key must stand here. -/
  required : Bool
  /-- The number of the token, counted from the start of the stream. -/
  number : Nat
  index : Nat
  line : Nat
  column : Nat

namespace KeyPlace

def none : KeyPlace := ⟨false, false, 0, 0, 0, 0⟩

end KeyPlace

/-- The longest key without a mark. -/
def keyLimit : Nat := 1024

/-- The state of the search for tokens. -/
structure Scanner where
  cursor : Cursor
  started : Bool
  ended : Bool
  /-- Tokens found and not yet taken. -/
  queue : List Token
  /-- How many tokens have been taken. -/
  taken : Nat
  /-- The column of the present block collection, and those of the ones around it. -/
  indent : Int
  indents : List Int
  /-- Whether a key may start here. -/
  keyAllowed : Bool
  /-- The latest place of a key, and those of the flow collections around. -/
  keyPlace : KeyPlace
  outerPlaces : List KeyPlace

namespace Scanner

def ofBytes (bytes : ByteArray) : Scanner :=
  ⟨.ofBytes bytes, false, false, [], 0, -1, [], true, .none, []⟩

/-- Whether the cursor stands inside a flow collection. -/
def inFlow (s : Scanner) : Bool := !s.outerPlaces.isEmpty

def push (s : Scanner) (t : Token) : Scanner := { s with queue := s.queue ++ [t] }

/-- Puts a token in front of the token with the given number. -/
def insertAt (s : Scanner) (number : Nat) (t : Token) : Scanner :=
  let ahead := number - s.taken
  { s with queue := s.queue.take ahead ++ t :: s.queue.drop ahead }

/-! ## Places of keys -/

/-- Whether the cursor has left the reach of a key that starts at the given place. -/
def isStale (s : Scanner) (k : KeyPlace) : Bool :=
  k.possible && (k.line < s.cursor.line || k.index + keyLimit < s.cursor.index)

/-- Gives up one place out of reach; a required key that is out of reach is a fault. -/
def dropStale (s : Scanner) (k : KeyPlace) : Except Fault KeyPlace :=
  if s.isStale k then
    if k.required then .error .malformed else .ok { k with possible := false }
  else .ok k

/-- Gives up all places out of reach. -/
def dropStalePlaces (s : Scanner) : Except Fault Scanner := do
  if !s.isStale s.keyPlace && !s.outerPlaces.any s.isStale then return s
  let outer ← s.outerPlaces.reverse.mapM s.dropStale
  let place ← s.dropStale s.keyPlace
  return { s with keyPlace := place, outerPlaces := outer.reverse }

/-- Gives up the latest place. -/
def dropPlace (s : Scanner) : Except Fault Scanner :=
  if s.keyPlace.possible && s.keyPlace.required then .error .malformed
  else .ok { s with keyPlace := { s.keyPlace with possible := false } }

/-- Notes the next token as the possible start of a key, if one may start here. -/
def savePlace (s : Scanner) : Except Fault Scanner := do
  if !s.keyAllowed then return s
  let required := !s.inFlow && s.indent == (s.cursor.column : Int)
  let s ← s.dropPlace
  return { s with keyPlace := ⟨true, required, s.taken + s.queue.length, s.cursor.index,
    s.cursor.line, s.cursor.column⟩ }

/-! ## Indentation -/

/-- Starts a block collection if the column is deeper than the present one. The mark goes in front
of the token with the given number, or to the end. -/
def openBlock (s : Scanner) (column : Nat) (number : Option Nat) (mark : Token) : Scanner :=
  if s.inFlow then s
  else if s.indent < (column : Int) then
    let s := { s with indents := s.indent :: s.indents, indent := (column : Int) }
    match number with
    | some n => s.insertAt n mark
    | none => s.push mark
  else s

/-- Ends the block collections that lie deeper than the column. -/
def closeDeeper (column : Int) : List Int → Scanner → Scanner
  | [], s => s
  | outer :: rest, s =>
    if column < s.indent then
      closeDeeper column rest { s.push .blockEnd with indent := outer, indents := rest }
    else s

def closeBlocks (s : Scanner) (column : Int) : Scanner :=
  if s.inFlow then s else closeDeeper column s.indents s

/-! ## Between tokens -/

/-- Past blanks, comments and line breaks. A tab counts as a blank only where no key may start. A
new line outside flow collections allows a key again. -/
def skipToToken : Nat → Scanner → Except Fault Scanner
  | 0, _ => .error .malformed
  | fuel + 1, s => do
    s.cursor.need 1
    let c := if s.cursor.column == 0 && s.cursor.next == '\ufeff' then s.cursor.skip else s.cursor
    let tabs := s.inFlow || !s.keyAllowed
    let c ← c.skipWhile fun x => x == ' ' || (tabs && x == '\t')
    let c ← c.skipComment
    if isBreak c.next then
      c.need 2
      skipToToken fuel { s with cursor := c.skipBreak, keyAllowed := s.keyAllowed || !s.inFlow }
    else return { s with cursor := c }

/-! ## Directives -/

/-- A number of at most nine digits. -/
def scanVersionNumber (c : Cursor) : Except Fault (Nat × Cursor) := do
  let (ds, c) ← c.takeWhile isDigit
  if ds.isEmpty || 9 < ds.length then throw .malformed
  return (ds.foldl (fun n d => n * 10 + (d.toNat - '0'.toNat)) 0, c)

private def uriMarks : List Char :=
  [';', '/', '?', ':', '@', '&', '=', '+', '$', '.', '%', '!', '~', '*', '\'', '(', ')']

/-- The characters of a tag; between angle brackets and in directives some more are allowed. -/
def isUriChar (wide : Bool) (x : Char) : Bool :=
  isWordChar x || uriMarks.contains x || (wide && (x == ',' || x == '[' || x == ']'))

/-- How many bytes a character with this first byte takes. -/
def leadLength? (octet : Nat) : Option Nat :=
  if octet < 0x80 then some 1
  else if octet < 0xC0 then none
  else if octet < 0xE0 then some 2
  else if octet < 0xF0 then some 3
  else if octet < 0xF8 then some 4
  else none

/-- One escaped byte. -/
def scanOctet (c : Cursor) : Except Fault (Nat × Cursor) := do
  c.need 3
  if c.next != '%' then throw .malformed
  match hexDigit? (c.ahead 1), hexDigit? (c.ahead 2) with
  | some high, some low => return (high * 16 + low, c.skipBy 3)
  | _, _ => throw .malformed

/-- The escaped bytes after the first of a character. -/
def scanTrailing : Nat → Cursor → Except Fault (List UInt8 × Cursor)
  | 0, c => .ok ([], c)
  | n + 1, c => do
    let (octet, c) ← scanOctet c
    if octet < 0x80 || 0xBF < octet then throw .malformed
    let (rest, c) ← scanTrailing n c
    return (UInt8.ofNat octet :: rest, c)

/-- The escaped bytes of one character. -/
def scanUriEscape (c : Cursor) : Except Fault (List UInt8 × Cursor) := do
  let (octet, c) ← scanOctet c
  let some n := leadLength? octet | throw .malformed
  let (rest, c) ← scanTrailing (n - 1) c
  return (UInt8.ofNat octet :: rest, c)

/-- The bytes of a tag, with escapes resolved. -/
def scanUri (wide : Bool) : Nat → Cursor → Except Fault (List UInt8 × Cursor)
  | 0, _ => .error .malformed
  | fuel + 1, c => do
    c.need 1
    if c.next == '%' then
      let (octets, c) ← scanUriEscape c
      let (rest, c) ← scanUri wide fuel c
      return (octets ++ rest, c)
    else if isUriChar wide c.next then
      let (rest, after) ← scanUri wide fuel c.skip
      return (UInt8.ofNat c.next.toNat :: rest, after)
    else return ([], c)

/-- A tag as far as its first null byte, where it ends. -/
def untilNull (bytes : List UInt8) : List UInt8 := bytes.takeWhile (· != 0)

/-- The bytes of a tag, of which there must be at least one. -/
def scanTagUri (wide : Bool) (c : Cursor) : Except Fault (List UInt8 × Cursor) := do
  let (bytes, c) ← scanUri wide (c.size + 1) c
  if bytes.isEmpty then throw .malformed
  return (untilNull bytes, c)

def asciiBytes (cs : List Char) : List UInt8 := cs.map fun c => UInt8.ofNat c.toNat

/-- A mark, a word and, if there is one, another mark. -/
def scanHandle (c : Cursor) : Except Fault (List Char × Cursor) := do
  c.need 1
  if c.next != '!' then throw .malformed
  let (word, c) ← c.skip.takeWhile isWordChar
  if c.next == '!' then return ('!' :: (word ++ ['!']), c.skip) else return ('!' :: word, c)

/-- The version and tag directives. -/
def scanDirective (c : Cursor) : Except Fault (Token × Cursor) := do
  let (name, c) ← c.skip.takeWhile isWordChar
  if name.isEmpty || !isBlankOrEnd c.next then throw .malformed
  let c ← c.skipWhile isBlank
  let (token, c) ←
    if name == ['Y', 'A', 'M', 'L'] then do
      let (major, c) ← scanVersionNumber c
      if c.next != '.' then throw .malformed
      let (minor, c) ← scanVersionNumber c.skip
      pure (Token.versionDirective major minor, c)
    else if name == ['T', 'A', 'G'] then do
      let (handle, c) ← scanHandle c
      if handle != ['!'] && handle.getLast? != some '!' then throw .malformed
      c.need 1
      if !isBlank c.next then throw .malformed
      let c ← c.skipWhile isBlank
      let (expansion, c) ← scanTagUri true c
      c.need 1
      if !isBlankOrEnd c.next then throw .malformed
      pure (Token.tagDirective (asciiBytes handle) expansion, c)
    else throw .malformed
  return (token, ← c.finishLine)

/-! ## Anchors and tags -/

/-- The name of an anchor or alias after its mark. -/
def scanName (c : Cursor) : Except Fault (String × Cursor) := do
  let (name, c) ← c.skip.takeWhile isWordChar
  if name.isEmpty then throw .malformed
  if !(isBlankOrEnd c.next || ['?', ':', ',', ']', '\x7d', '%', '@', '\x60'].contains c.next) then
    throw .malformed
  return (String.ofList name, c)

/-- The handle and suffix of a tag: none for a tag that is written in full or is a lone mark. -/
def scanTagParts (c : Cursor) : Except Fault (List UInt8 × List UInt8 × Cursor) := do
  c.need 2
  if c.ahead 1 == '<' then
    let (suffix, c) ← scanTagUri true (c.skipBy 2)
    if c.next != '>' then throw .malformed
    return ([], suffix, c.skip)
  let (handle, c) ← scanHandle c
  if 1 < handle.length && handle.getLast? == some '!' then
    let (suffix, c) ← scanTagUri false c
    return (asciiBytes handle, suffix, c)
  let (rest, c) ← scanUri false (c.size + 1) c
  let suffix := untilNull (asciiBytes (handle.drop 1) ++ rest)
  if suffix.isEmpty then return ([], [0x21], c) else return ([0x21], suffix, c)

/-- A tag, which a blank has to follow, or a comma in a flow collection. -/
def scanTag (inFlow : Bool) (c : Cursor) : Except Fault (Token × Cursor) := do
  let (handle, suffix, c) ← scanTagParts c
  c.need 1
  if !(inFlow && c.next == ',') && !isBlankOrEnd c.next then throw .malformed
  return (.tag handle suffix, c)

/-! ## Finding the next token -/

/-- The end of the stream ends all block collections. -/
def fetchEnd (s : Scanner) : Except Fault Scanner := do
  let c := s.cursor
  let c := if c.column != 0 then { c with column := 0, line := c.line + 1 } else c
  let s ← ({ s with cursor := c }.closeBlocks (-1)).dropPlace
  return { s.push .streamEnd with keyAllowed := false, ended := true }

def fetchDirective (s : Scanner) : Except Fault Scanner := do
  let s ← (s.closeBlocks (-1)).dropPlace
  let (token, c) ← scanDirective s.cursor
  return { s.push token with cursor := c, keyAllowed := false }

def fetchMarker (s : Scanner) (token : Token) : Except Fault Scanner := do
  let s ← (s.closeBlocks (-1)).dropPlace
  return { s.push token with cursor := s.cursor.skipBy 3, keyAllowed := false }

def fetchFlowStart (s : Scanner) (token : Token) : Except Fault Scanner := do
  let s ← s.savePlace
  return { s.push token with
    cursor := s.cursor.skip, keyAllowed := true, keyPlace := .none,
    outerPlaces := s.keyPlace :: s.outerPlaces }

def fetchFlowEnd (s : Scanner) (token : Token) : Except Fault Scanner := do
  let s ← s.dropPlace
  let (place, outer) := match s.outerPlaces with
    | [] => (s.keyPlace, [])
    | place :: outer => (place, outer)
  return { s.push token with
    cursor := s.cursor.skip, keyAllowed := false, keyPlace := place, outerPlaces := outer }

def fetchFlowEntry (s : Scanner) : Except Fault Scanner := do
  let s ← s.dropPlace
  return { s.push .flowEntry with cursor := s.cursor.skip, keyAllowed := true }

/-- Outside flow collections the mark `mark` may have to start a block collection here. -/
def startBlock (s : Scanner) (mark : Token) : Except Fault Scanner :=
  if s.inFlow then .ok s
  else if !s.keyAllowed then .error .malformed
  else .ok (s.openBlock s.cursor.column none mark)

def fetchBlockEntry (s : Scanner) : Except Fault Scanner := do
  let s ← (← s.startBlock .blockSequenceStart).dropPlace
  return { s.push .blockEntry with cursor := s.cursor.skip, keyAllowed := true }

def fetchKey (s : Scanner) : Except Fault Scanner := do
  let s ← (← s.startBlock .blockMappingStart).dropPlace
  return { s.push .key with cursor := s.cursor.skip, keyAllowed := !s.inFlow }

def fetchValue (s : Scanner) : Except Fault Scanner := do
  let place := s.keyPlace
  let s ←
    if place.possible then
      let s := (s.insertAt place.number .key).openBlock place.column (some place.number)
        .blockMappingStart
      pure { s with keyPlace := { place with possible := false }, keyAllowed := false }
    else do
      let s ← s.startBlock .blockMappingStart
      pure { s with keyAllowed := !s.inFlow }
  return { s.push .value with cursor := s.cursor.skip }

/-- A token that may start a key and after which none may start. -/
def fetchKeyed (s : Scanner) (scan : Cursor → Except Fault (Token × Cursor)) :
    Except Fault Scanner := do
  let s ← s.savePlace
  let (token, c) ← scan s.cursor
  return { s.push token with cursor := c, keyAllowed := false }

def fetchBlockScalar (s : Scanner) (literal : Bool) : Except Fault Scanner := do
  let s ← s.dropPlace
  let (text, c) ← scanBlock literal s.indent s.cursor
  return { s.push (.scalar text false) with cursor := c, keyAllowed := true }

def fetchPlain (s : Scanner) : Except Fault Scanner := do
  let s ← s.savePlace
  let (text, broken, c) ← scanPlain s.inFlow (s.indent + 1).toNat s.cursor
  return { s.push (.scalar text true) with cursor := c, keyAllowed := broken }

/-- The characters that start something other than a plain scalar. -/
def isIndicator (x : Char) : Bool :=
  ['-', '?', ':', ',', '[', ']', '\x7b', '\x7d', '#', '&', '*', '!', '|', '>', '\'', '"', '%', '@',
    '\x60'].contains x

/-- Whether a plain scalar starts here: some indicators may start one if no blank follows them. -/
def startsPlain (inFlow : Bool) (c : Cursor) : Bool :=
  let x := c.next
  !(isBlankOrEnd x || isIndicator x) || (x == '-' && !isBlank (c.ahead 1)) ||
    (!inFlow && (x == '?' || x == ':') && !isBlankOrEnd (c.ahead 1))

/-- Finds at least one more token, or reaches the end. -/
def fetch (s : Scanner) : Except Fault Scanner := do
  s.cursor.need 1
  if !s.started then return { s.push .streamStart with started := true }
  let s ← skipToToken (s.cursor.size + 1) s
  let s ← s.dropStalePlaces
  let s := s.closeBlocks s.cursor.column
  let c := s.cursor
  c.need 4
  let x := c.next
  let apart := isBlankOrEnd (c.ahead 1)
  if isEnd x then s.fetchEnd
  else if c.column == 0 && x == '%' then s.fetchDirective
  else if c.atMarker '-' then s.fetchMarker .documentStart
  else if c.atMarker '.' then s.fetchMarker .documentEnd
  else if x == '[' then s.fetchFlowStart .flowSequenceStart
  else if x == '\x7b' then s.fetchFlowStart .flowMappingStart
  else if x == ']' then s.fetchFlowEnd .flowSequenceEnd
  else if x == '\x7d' then s.fetchFlowEnd .flowMappingEnd
  else if x == ',' then s.fetchFlowEntry
  else if x == '-' && apart then s.fetchBlockEntry
  else if x == '?' && (s.inFlow || apart) then s.fetchKey
  else if x == ':' && (s.inFlow || apart) then s.fetchValue
  else if x == '*' then s.fetchKeyed fun c => do
    let (name, c) ← scanName c
    return (.alias name, c)
  else if x == '&' then s.fetchKeyed fun c => do
    let (name, c) ← scanName c
    return (.anchor name, c)
  else if x == '!' then s.fetchKeyed (scanTag s.inFlow)
  else if x == '|' && !s.inFlow then s.fetchBlockScalar true
  else if x == '>' && !s.inFlow then s.fetchBlockScalar false
  else if x == '\'' || x == '"' then s.fetchKeyed fun c => do
    let (text, c) ← scanQuoted (x == '\'') c
    return (.scalar text false, c)
  else if startsPlain s.inFlow c then s.fetchPlain
  else throw .malformed

/-- Whether the first token of the queue may still be preceded by one that is not known yet. -/
def mustFetch (s : Scanner) : Except Fault (Scanner × Bool) := do
  if s.queue.isEmpty then return (s, true)
  let s ← s.dropStalePlaces
  let held (k : KeyPlace) := k.possible && k.number == s.taken
  return (s, held s.keyPlace || s.outerPlaces.any held)

/-- Fetches until the first token is settled. -/
def settle : Nat → Scanner → Except Fault Scanner
  | 0, _ => .error .malformed
  | fuel + 1, s => do
    let (s, more) ← s.mustFetch
    if more then settle fuel (← s.fetch) else return s

/-- The next token, which stays in the queue. After the end of the stream there is none. -/
def peek (s : Scanner) : Except Fault (Token × Scanner) := do
  if s.ended && s.queue.isEmpty then return (.streamEnd, s)
  let s ← settle (s.cursor.size + 3) s
  return (s.queue.headD .streamEnd, s)

/-- Takes the next token. -/
def advance (s : Scanner) : Scanner :=
  { s with queue := s.queue.drop 1, taken := s.taken + 1 }

end Scanner

end RuleCatalog.Yaml
