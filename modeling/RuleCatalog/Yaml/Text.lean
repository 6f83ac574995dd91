import RuleCatalog.Text.Utf8

/-! # The text of a YAML stream

A stream of bytes as a readable text with a position in it. Only UTF-8 is read, and only characters
that YAML allows; the first byte that breaks either rule breaks the stream off. Bytes are read a
block at a time, so everything of the blocks before can still be read. A text that ends regularly
can be looked at beyond its end, where every character is the null character, which no text holds.
-/

namespace RuleCatalog.Yaml

/-- Why a stream has no more content: what is written is no YAML, or a name refers to no node. -/
inductive Fault where
  | malformed
  | unknownAnchor
  deriving DecidableEq, Repr

/-- The characters that may occur in a stream. -/
def isAllowed (c : Char) : Bool :=
  let n := c.toNat
  n == 0x09 || n == 0x0A || n == 0x0D || (0x20 ≤ n && n ≤ 0x7E) || n == 0x85 ||
    (0xA0 ≤ n && n ≤ 0xFFFD) || 0x10000 ≤ n

/-- How many bytes are read at a time. -/
def blockSize : Nat := 16384

/-- The characters of `bytes` from `i`, where `block` is the end of the present block and `held`
holds the characters of this block, last first. A character that does not end within the block
belongs to the next one. At a fault the present block is lost. -/
def readBlocks (bytes : ByteArray) (i block : Nat) (held : List Char) (earlier : List (List Char)) :
    List (List Char) × Bool :=
  if _inside : i < bytes.size then
    match bytes.utf8DecodeChar? i with
    | some c =>
      if block < i + c.utf8Size then
        if isAllowed c then
          readBlocks bytes (i + c.utf8Size) (i + blockSize) [c] (held :: earlier)
        else (held :: earlier, true)
      else if isAllowed c then readBlocks bytes (i + c.utf8Size) block (c :: held) earlier
      else (earlier, true)
    | none => (if block ≤ i then held :: earlier else earlier, true)
  else (held :: earlier, false)
termination_by bytes.size - i
decreasing_by
  all_goals
    have := c.utf8Size_pos
    omega

/-- A place in a stream: what can be read from there on, and where it is. -/
structure Cursor where
  rest : List Char
  /-- Whether the stream is broken off after `rest`. -/
  broken : Bool
  /-- How many characters the stream has, the broken off part aside. -/
  size : Nat
  index : Nat
  line : Nat
  column : Nat

/-- The start of a stream. -/
def Cursor.ofBytes (bytes : ByteArray) : Cursor :=
  let (blocks, broken) := readBlocks bytes 0 blockSize [] []
  let text := blocks.foldl (fun text block => block.foldl (fun text c => c :: text) text) []
  ⟨text, broken, text.length, 0, 0, 0⟩

/-! ## Classes of characters -/

def isBreak (c : Char) : Bool :=
  c == '\n' || c == '\r' || c == '\x85' || c == '\u2028' || c == '\u2029'

/-- The end of the stream. -/
def isEnd (c : Char) : Bool := c == '\x00'
def isBlank (c : Char) : Bool := c == ' ' || c == '\t'
def isBreakOrEnd (c : Char) : Bool := isBreak c || isEnd c
def isBlankOrEnd (c : Char) : Bool := isBlank c || isBreakOrEnd c

/-- The characters of anchors, directives and tag handles. -/
def isWordChar (c : Char) : Bool :=
  ('0' ≤ c && c ≤ '9') || ('A' ≤ c && c ≤ 'Z') || ('a' ≤ c && c ≤ 'z') || c == '_' || c == '-'

def isDigit (c : Char) : Bool := '0' ≤ c && c ≤ '9'

def hexDigit? (c : Char) : Option Nat :=
  if isDigit c then some (c.toNat - '0'.toNat)
  else if 'a' ≤ c ∧ c ≤ 'f' then some (c.toNat - 'a'.toNat + 10)
  else if 'A' ≤ c ∧ c ≤ 'F' then some (c.toNat - 'A'.toNat + 10)
  else none

namespace Cursor

/-- Makes sure that `n` characters can be looked at. -/
def need (n : Nat) (c : Cursor) : Except Fault Unit :=
  if c.broken && (c.rest.drop (n - 1)).isEmpty then .error .malformed else .ok ()

/-- The character `i` places ahead. -/
def ahead (c : Cursor) (i : Nat) : Char := c.rest.getD i '\x00'

/-- The next character. -/
def next (c : Cursor) : Char := c.rest.headD '\x00'

/-- One character further on the same line. -/
def skip (c : Cursor) : Cursor :=
  match c.rest with
  | [] => c
  | _ :: rest => { c with rest := rest, index := c.index + 1, column := c.column + 1 }

def skipBy (c : Cursor) : Nat → Cursor
  | 0 => c
  | n + 1 => c.skip.skipBy n

/-- Past a line break, with the characters that it counts as: most count as a line feed. -/
def takeBreak (c : Cursor) : List Char × Cursor :=
  match c.rest with
  | '\r' :: '\n' :: rest => (['\n'], newLine c rest 2)
  | x :: rest =>
    if x == '\u2028' || x == '\u2029' then ([x], newLine c rest 1)
    else if isBreak x then (['\n'], newLine c rest 1)
    else ([], c)
  | [] => ([], c)
where
  newLine (c : Cursor) (rest : List Char) (n : Nat) : Cursor :=
    { c with rest := rest, index := c.index + n, line := c.line + 1, column := 0 }

def skipBreak (c : Cursor) : Cursor := c.takeBreak.2

/-- The characters up to the first that fails the test, and the place of that one. -/
def takeWhile (test : Char → Bool) (c : Cursor) : Except Fault (List Char × Cursor) :=
  let taken := c.rest.takeWhile test
  let rest := c.rest.drop taken.length
  if rest.isEmpty && c.broken then .error .malformed
  else .ok (taken, { c with
    rest := rest, index := c.index + taken.length, column := c.column + taken.length })

def skipWhile (test : Char → Bool) (c : Cursor) : Except Fault Cursor :=
  (c.takeWhile test).map Prod.snd

/-- Whether a line of three marks stands here: the start or the end of a document. -/
def atMarker (mark : Char) (c : Cursor) : Bool :=
  c.column == 0 && c.ahead 0 == mark && c.ahead 1 == mark && c.ahead 2 == mark && isBlankOrEnd (c.ahead 3)

def atDocumentMarker (c : Cursor) : Bool := c.atMarker '-' || c.atMarker '.'

/-- Past a comment, if one starts here. -/
def skipComment (c : Cursor) : Except Fault Cursor :=
  if c.next == '#' then c.skipWhile (fun x => !isBreakOrEnd x) else .ok c

/-- Past the blanks and the comment at the end of a line, and past its break. -/
def finishLine (c : Cursor) : Except Fault Cursor := do
  let c ← c.skipWhile isBlank
  let c ← c.skipComment
  if !isBreakOrEnd c.next then throw .malformed
  if isBreak c.next then
    c.need 2
    return c.skipBreak
  return c

end Cursor

end RuleCatalog.Yaml
