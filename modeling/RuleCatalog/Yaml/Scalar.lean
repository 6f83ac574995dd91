import RuleCatalog.Yaml.Text

/-! # Scanning scalars

The five ways in which a scalar is written: plain, between single or double quotation marks, and as
a literal or folded block. All but the literal block fold lines: a single line break between two
lines counts as a space, further ones stay. Each scanner takes the place where the scalar starts and
gives its characters and the place after it. The scanners are bounded by the number of characters
of the stream, of which every turn of a loop uses up at least one.
-/

namespace RuleCatalog.Yaml

/-- Text that is taken up in pieces, last first. -/
abbrev Pieces := List (List Char)

/-- The text of the pieces. -/
def Pieces.text (ps : Pieces) : String := String.ofList ps.reverse.flatten

/-- The blanks between two words: what stood on the line of the first, the first line break, and the
breaks after it. -/
structure Gap where
  blanks : Pieces
  first : List Char
  more : Pieces
  /-- Whether a line has ended. -/
  broken : Bool

namespace Gap

def empty : Gap := ⟨[], [], [], false⟩

/-- What the gap counts as between the words. -/
def fold (g : Gap) : Pieces :=
  if g.broken then
    if g.first == ['\n'] then (if g.more.isEmpty then [[' ']] else g.more)
    else g.more ++ [g.first]
  else g.blanks

/-- The gap with one more line break. -/
def addBreak (g : Gap) (chars : List Char) : Gap :=
  if g.broken then { g with more := chars :: g.more }
  else ⟨[], chars, g.more, true⟩

/-- The gap with one more blank, which counts only before the first line break. -/
def addBlank (g : Gap) (x : Char) : Gap := if g.broken then g else { g with blanks := [x] :: g.blanks }

end Gap

/-- Past blanks and line breaks. Where `limit` is given, a tab before that column on a later line is
refused. -/
def skipGap (limit : Option Nat) : Nat → Gap → Cursor → Except Fault (Gap × Cursor)
  | 0, _, _ => .error .malformed
  | fuel + 1, gap, c => do
    c.need 1
    let x := c.next
    if isBlank x then
      if gap.broken && x == '\t' && limit.any (c.column < ·) then throw .malformed
      skipGap limit fuel (gap.addBlank x) c.skip
    else if isBreak x then
      c.need 2
      let (chars, c) := c.takeBreak
      skipGap limit fuel (gap.addBreak chars) c
    else return (gap, c)

/-! ## Plain scalars -/

/-- Whether a colon here is followed by a mark that may not follow it in a flow collection. -/
def refusedColon (inFlow : Bool) (c : Cursor) : Bool :=
  inFlow && c.next == ':' && [',', '?', '[', ']', '\x7b', '\x7d'].contains (c.ahead 1)

/-- Whether a mark that ends a plain scalar stands here. -/
def endsPlain (inFlow : Bool) (c : Cursor) : Bool :=
  (c.next == ':' && isBlankOrEnd (c.ahead 1)) ||
    (inFlow && [',', '[', ']', '\x7b', '\x7d'].contains c.next)

/-- The characters of a plain scalar up to the next blank, added to those before it, last first. -/
def plainWord (inFlow : Bool) : Nat → List Char → Cursor → Except Fault (List Char × Cursor)
  | 0, _, _ => .error .malformed
  | fuel + 1, word, c => do
    if isBlankOrEnd c.next then return (word, c)
    if refusedColon inFlow c then throw .malformed
    if endsPlain inFlow c then return (word, c)
    let after := c.skip
    after.need 2
    plainWord inFlow fuel (c.next :: word) after

/-- A plain scalar after the words in `pieces` and the gap after them. Gives also whether the scalar
is followed by a line break. -/
def plainWords (inFlow : Bool) (indent : Nat) :
    Nat → Pieces → Gap → Cursor → Except Fault (Pieces × Bool × Cursor)
  | 0, _, _, _ => .error .malformed
  | fuel + 1, pieces, gap, c => do
    c.need 4
    if c.atDocumentMarker || c.next == '#' then return (pieces, gap.broken, c)
    let (word, c) ← plainWord inFlow (fuel + 1) [] c
    let (pieces, gap) := if word.isEmpty then (pieces, gap)
      else (word.reverse :: (gap.fold ++ pieces), Gap.empty)
    if !(isBlank c.next || isBreak c.next) then return (pieces, gap.broken, c)
    let (gap, c) ← skipGap (some indent) (fuel + 1) gap c
    if !inFlow && c.column < indent then return (pieces, gap.broken, c)
    plainWords inFlow indent fuel pieces gap c

/-- A plain scalar, whose lines must reach the column `indent` outside flow collections. -/
def scanPlain (inFlow : Bool) (indent : Nat) (c : Cursor) : Except Fault (String × Bool × Cursor) := do
  let (pieces, broken, c) ← plainWords inFlow indent (c.size + 2) [] Gap.empty c
  return (pieces.text, broken, c)

/-! ## Quoted scalars -/

/-- The character of an escape with a single letter. -/
def escaped? : Char → Option Char
  | '0' => some '\x00'
  | 'a' => some '\x07'
  | 'b' => some '\x08'
  | 't' => some '\t'
  | '\t' => some '\t'
  | 'n' => some '\n'
  | 'v' => some '\x0b'
  | 'f' => some '\x0c'
  | 'r' => some '\r'
  | 'e' => some '\x1b'
  | ' ' => some ' '
  | '"' => some '"'
  | '/' => some '/'
  | '\\' => some '\\'
  | 'N' => some '\x85'
  | '_' => some '\xa0'
  | 'L' => some '\u2028'
  | 'P' => some '\u2029'
  | _ => none

/-- How many hexadecimal digits follow the letter of an escape. -/
def escapeLength? : Char → Option Nat
  | 'x' => some 2
  | 'u' => some 4
  | 'U' => some 8
  | _ => none

/-- The number written by `n` hexadecimal digits. -/
def hexNumber? (n : Nat) (text : List Char) : Option Nat :=
  (List.range n).foldlM (fun value i => return value * 16 + (← hexDigit? (text.getD i '\x00'))) 0

/-- An escape after its backslash. -/
def scanEscape (c : Cursor) : Except Fault (Char × Cursor) := do
  match escaped? c.next with
  | some x => return (x, c.skip)
  | none =>
    let some n := escapeLength? c.next | throw .malformed
    let c := c.skip
    c.need n
    let some value := hexNumber? n c.rest | throw .malformed
    if h : value.isValidChar then return (Char.ofNatAux value h, c.skipBy n) else throw .malformed

/-- The characters of a quoted scalar up to the next blank or the closing mark, last first; and
whether they end with an escaped line break. -/
def quotedWord (single : Bool) : Nat → List Char → Cursor → Except Fault (List Char × Bool × Cursor)
  | 0, _, _ => .error .malformed
  | fuel + 1, word, c => do
    c.need 2
    if isBlankOrEnd c.next then return (word, false, c)
    if single && c.next == '\'' && c.ahead 1 == '\'' then
      quotedWord single fuel ('\'' :: word) (c.skipBy 2)
    else if c.next == (if single then '\'' else '"') then return (word, false, c)
    else if !single && c.next == '\\' && isBreak (c.ahead 1) then
      c.need 3
      return (word, true, c.skip.skipBreak)
    else if !single && c.next == '\\' then
      let (x, c) ← scanEscape c.skip
      quotedWord single fuel (x :: word) c
    else quotedWord single fuel (c.next :: word) c.skip

/-- A quoted scalar after its opening mark. -/
def quotedWords (single : Bool) : Nat → Pieces → Cursor → Except Fault (Pieces × Cursor)
  | 0, _, _ => .error .malformed
  | fuel + 1, pieces, c => do
    c.need 4
    if c.atDocumentMarker || isEnd c.next then throw .malformed
    let (word, escapedBreak, c) ← quotedWord single (fuel + 1) [] c
    let pieces := word.reverse :: pieces
    c.need 1
    if c.next == (if single then '\'' else '"') then return (pieces, c.skip)
    let (gap, c) ← skipGap none (fuel + 1) { Gap.empty with broken := escapedBreak } c
    quotedWords single fuel (gap.fold ++ pieces) c

/-- A quoted scalar from its opening mark on. -/
def scanQuoted (single : Bool) (c : Cursor) : Except Fault (String × Cursor) := do
  let (pieces, c) ← quotedWords single (c.size + 2) [] c.skip
  return (pieces.text, c)

/-! ## Block scalars -/

/-- What becomes of the line breaks at the end of a block. -/
inductive Chomping where
  | strip
  | clip
  | keep
  deriving DecidableEq, Repr

/-- The sign for the line breaks at the end, if one stands here. -/
def scanChomping (c : Cursor) : Option (Chomping × Cursor) :=
  if c.next == '+' then some (.keep, c.skip)
  else if c.next == '-' then some (.strip, c.skip)
  else none

/-- A digit for the indentation, if one stands here; zero is refused. -/
def scanIncrement (c : Cursor) : Except Fault (Option Nat × Cursor) :=
  if c.next == '0' then .error .malformed
  else if isDigit c.next then .ok (hexDigit? c.next, c.skip)
  else .ok (none, c)

/-- The header of a block scalar after its mark: sign and digit in either order. -/
def scanBlockHeader (c : Cursor) : Except Fault (Chomping × Option Nat × Cursor) := do
  c.need 1
  match scanChomping c with
  | some (chomping, c) =>
    c.need 1
    let (increment, c) ← scanIncrement c
    return (chomping, increment, c)
  | none =>
    let (increment, c) ← scanIncrement c
    c.need 1
    match if increment.isSome then scanChomping c else none with
    | some (chomping, c) => return (chomping, increment, c)
    | none => return (.clip, increment, c)

/-- Past indentation and empty lines. While no indentation is known every space belongs to it.
Gives the line breaks, last first, and the widest indentation seen. -/
def blockBreaks (indent : Option Nat) :
    Nat → Nat → Pieces → Cursor → Except Fault (Nat × Pieces × Cursor)
  | 0, _, _, _ => .error .malformed
  | fuel + 1, widest, breaks, c => do
    c.need 1
    let inside := indent.all (c.column < ·)
    if inside && c.next == ' ' then blockBreaks indent fuel (max widest (c.column + 1)) breaks c.skip
    else if inside && c.next == '\t' then throw .malformed
    else if isBreak c.next then
      c.need 2
      let (chars, c) := c.takeBreak
      blockBreaks indent fuel widest (chars :: breaks) c
    else return (max widest c.column, breaks, c)

/-- A block scalar under way: its text, the break after its last line, the empty lines after that,
and whether the last line began with a blank. -/
structure Block where
  pieces : Pieces
  lastBreak : List Char
  emptyLines : Pieces
  leadingBlank : Bool

/-- The breaks between the lines before and a line that begins with a blank or not. -/
def Block.join (literal blank : Bool) (b : Block) : Pieces :=
  if !literal && b.lastBreak == ['\n'] && !b.leadingBlank && !blank then
    b.emptyLines ++ (if b.emptyLines.isEmpty then [[' ']] else []) ++ b.pieces
  else b.emptyLines ++ b.lastBreak :: b.pieces

/-- The lines of a block scalar. -/
def blockLines (literal : Bool) (indent : Nat) : Nat → Block → Cursor → Except Fault (Block × Cursor)
  | 0, _, _ => .error .malformed
  | fuel + 1, block, c => do
    if c.column != indent || isEnd c.next then return (block, c)
    let blank := isBlank c.next
    let (line, c) ← c.takeWhile fun x => !isBreakOrEnd x
    let pieces := line :: block.join literal blank
    c.need 2
    let (lastBreak, c) := c.takeBreak
    let (_, emptyLines, c) ← blockBreaks (some indent) (c.size + 1) 0 [] c
    blockLines literal indent fuel ⟨pieces, lastBreak, emptyLines, blank⟩ c

/-- A block scalar from its mark on, inside a collection at the column `parent`. -/
def scanBlock (literal : Bool) (parent : Int) (c : Cursor) : Except Fault (String × Cursor) := do
  let (chomping, increment, c) ← scanBlockHeader c.skip
  let c ← c.finishLine
  let given := increment.map fun n => if 0 ≤ parent then parent.toNat + n else n
  let (widest, breaks, c) ← blockBreaks given (c.size + 1) 0 [] c
  let indent := given.getD (max (max widest (parent + 1).toNat) 1)
  let (block, c) ← blockLines literal indent (c.size + 2) ⟨[], [], breaks, false⟩ c
  let pieces := match chomping with
    | .strip => block.pieces
    | .clip => block.lastBreak :: block.pieces
    | .keep => block.emptyLines ++ block.lastBreak :: block.pieces
  return (pieces.text, c)

end RuleCatalog.Yaml
