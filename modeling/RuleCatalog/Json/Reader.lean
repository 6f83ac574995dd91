import RuleCatalog.Json.Numeral

/-! # Reading JSON

From a text to a draft. Every reader takes the text that is left and gives a part of the draft with
the text after it, or no text if a fault makes it impossible to go on. The readers of values that
contain others are bounded by the length of the text, of which each step uses up something.
-/

namespace RuleCatalog.Json

open Text (Glyph)

/-- The blanks between tokens. -/
def isSpace : Glyph → Bool
  | some c => c == ' ' || c == '\n' || c == '\t' || c == '\r'
  | none => false

/-- The text from its first token on. -/
def skipSpace (text : List Glyph) : List Glyph := text.dropWhile isSpace

/-- The rest of a fixed word. -/
def readWord : List Char → List Glyph → Except Fault (List Glyph)
  | [], text => .ok text
  | _ :: _, [] => .error .ended
  | c :: word, g :: text => if g = some c then readWord word text else .error .malformed

/-- The value of a hexadecimal digit. -/
def hexDigitOf? : Glyph → Option Nat
  | some c =>
    if '0' ≤ c ∧ c ≤ '9' then some (c.toNat - '0'.toNat)
    else if 'a' ≤ c ∧ c ≤ 'f' then some (c.toNat - 'a'.toNat + 10)
    else if 'A' ≤ c ∧ c ≤ 'F' then some (c.toNat - 'A'.toNat + 10)
    else none
  | none => none

/-- How many bytes a glyph takes. -/
def glyphSize : Glyph → Nat
  | some c => c.utf8Size
  | none => 1

/-- The number of bytes of the first four glyphs at most. -/
def nextSize (text : List Glyph) : Nat := ((text.take 4).map glyphSize).foldr (· + ·) 0

/-- The fault of a place where four hexadecimal digits should stand. -/
def hexFault (text : List Glyph) : Fault := if nextSize text < 4 then .ended else .malformed

/-- The number written by four hexadecimal digits. -/
def hexFour? (a b c d : Glyph) : Option Nat := do
  return (((← hexDigitOf? a) * 16 + (← hexDigitOf? b)) * 16 + (← hexDigitOf? c)) * 16
    + (← hexDigitOf? d)

/-- The character of a simple escape. -/
def simpleEscape? : Glyph → Option Char
  | some '"' => some '"'
  | some '\\' => some '\\'
  | some '/' => some '/'
  | some 'b' => some '\x08'
  | some 'f' => some '\x0c'
  | some 'n' => some '\n'
  | some 'r' => some '\r'
  | some 't' => some '\t'
  | _ => none

def isLeadSurrogate (n : Nat) : Bool := 0xD800 ≤ n && n ≤ 0xDBFF
def isTrailSurrogate (n : Nat) : Bool := 0xDC00 ≤ n && n ≤ 0xDFFF

/-- What follows an escaped leading surrogate: the trailing one and the text after it. -/
def trailSurrogate : List Glyph → Except Fault (Nat × List Glyph)
  | [] => .error .ended
  | some '\\' :: [] => .error .ended
  | some '\\' :: some 'u' :: text =>
    match text with
    | a :: b :: c :: d :: rest =>
      match hexFour? a b c d with
      | some n => if isTrailSurrogate n then .ok (n, rest) else .error .malformed
      | none => .error .malformed
    | _ => .error (hexFault text)
  | _ => .error .malformed

/-- The character above the basic plane that two surrogates stand for. -/
def pairedSurrogates (lead trail : Nat) : Char :=
  Char.ofNat (0x10000 + (lead - 0xD800) * 0x400 + (trail - 0xDC00))

/-- What reading the string up to here has given: its glyphs in reverse, or the first fault. -/
abbrev StringSoFar := Except Fault (List Glyph)

/-- A string at its closing mark: a gap in it is a fault. -/
def StringSoFar.finish (soFar : StringSoFar) : Except Fault String := do
  match Text.textOf? (← soFar).reverse with
  | some s => .ok s
  | none => .error .malformed

def StringSoFar.push (soFar : StringSoFar) (g : Glyph) : StringSoFar := soFar.map (g :: ·)

/-- A string that cannot be closed: an earlier fault of its content comes first. -/
def StringSoFar.stop (soFar : StringSoFar) (fault : Fault) :
    Except Fault String × Except Fault (List Glyph) :=
  (.error (match soFar with | .error first => first | .ok _ => fault), .error fault)

/-- The string after its opening mark: what reading it gives, and the text that skipping it leaves.
An escape of a lone surrogate is a fault of reading only. -/
def readString (soFar : StringSoFar) : List Glyph → Except Fault String × Except Fault (List Glyph)
  | [] => soFar.stop .ended
  | some '"' :: rest => (soFar.finish, .ok rest)
  | some '\\' :: text =>
    match text with
    | [] => soFar.stop .ended
    | some 'u' :: digits =>
      match digits with
      | a :: b :: c :: d :: rest =>
        match hexFour? a b c d with
        | none => soFar.stop .malformed
        | some n =>
          if isTrailSurrogate n then readString (soFar.bind fun _ => .error .malformed) rest
          else if isLeadSurrogate n then
            match trailSurrogate rest with
            | .error fault => readString (soFar.bind fun _ => .error fault) rest
            | .ok (trail, _) =>
              match rest with
              | _ :: _ :: _ :: _ :: _ :: _ :: after =>
                readString (soFar.push (some (pairedSurrogates n trail))) after
              | _ => soFar.stop .ended
          else readString (soFar.push (some (Char.ofNat n))) rest
      | _ => soFar.stop (hexFault digits)
    | g :: rest =>
      match simpleEscape? g with
      | some c => readString (soFar.push (some c)) rest
      | none => soFar.stop .malformed
  | some c :: rest =>
    if c.toNat < 0x20 then soFar.stop .malformed else readString (soFar.push (some c)) rest
  | none :: rest => readString (soFar.push none) rest

/-- A part of a draft and the text after it, if reading can go on. -/
abbrev Reading (α : Type) := α × Option (List Glyph)

/-- A value that is complete or cannot be skipped. -/
def Reading.ofWord (draft : Draft) : Except Fault (List Glyph) → Reading Draft
  | .ok rest => (draft, some rest)
  | .error fault => (.broken fault, none)

/-- A value that contains no others, given its first glyph `g` and the text from it on. -/
def readScalar (g : Glyph) (rest : List Glyph) : Reading Draft :=
  match g with
  | some 'n' => .ofWord .null (readWord ['u', 'l', 'l'] rest)
  | some 't' => .ofWord (.bool true) (readWord ['r', 'u', 'e'] rest)
  | some 'f' => .ofWord (.bool false) (readWord ['a', 'l', 's', 'e'] rest)
  | some '"' =>
    let (read, after) := readString (.ok []) rest
    (.text read (after.map fun _ => ()), after.toOption)
  | g =>
    if g = some '-' ∨ (digitOf? g).isSome then
      let reading := readNumeral (g :: rest)
      (.number reading.read (reading.rest.map fun _ => ()), reading.rest.toOption)
    else (.broken .malformed, none)

mutual

/-- The value at the start of a text. -/
def readValue : Nat → List Glyph → Reading Draft
  | 0, _ => (.missing, none)
  | fuel + 1, text =>
    match skipSpace text with
    | [] => (.missing, none)
    | some '[' :: rest =>
      match skipSpace rest with
      | [] => (.array [] (.open .ended), none)
      | some ']' :: after => (.array [] .closed, some after)
      | inner => match readItems fuel inner with
        | ((items, ending), after) => (.array items ending, after)
    | some '\x7b' :: rest =>
      match skipSpace rest with
      | [] => (.object [] (.open .ended), none)
      | some '\x7d' :: after => (.object [] .closed, some after)
      | inner => match readMembers fuel inner with
        | ((members, ending), after) => (.object members ending, after)
    | g :: rest => readScalar g rest

/-- The items from one of them to the closing bracket. -/
def readItems : Nat → List Glyph → Reading (List Draft × Ending)
  | 0, _ => (([], .open .ended), none)
  | fuel + 1, text =>
    match readValue fuel text with
    | (item, none) => (([item], .closed), none)
    | (item, some rest) =>
      match skipSpace rest with
      | [] => (([item], .open .ended), none)
      | some ']' :: after => (([item], .closed), some after)
      | some ',' :: after =>
        match skipSpace after with
        | some ']' :: _ => (([item, .broken .malformed], .closed), none)
        | next => match readItems fuel next with
          | ((items, ending), left) => ((item :: items, ending), left)
      | _ => (([item], .open .malformed), none)

/-- The members from one of them to the closing brace. -/
def readMembers : Nat → List Glyph → Reading (List (Draft × Draft) × Ending)
  | 0, _ => (([], .open .ended), none)
  | fuel + 1, text =>
    match readMember fuel text with
    | (member, none) => (([member], .closed), none)
    | (member, some rest) =>
      match skipSpace rest with
      | [] => (([member], .open .ended), none)
      | some '\x7d' :: after => (([member], .closed), some after)
      | some ',' :: after => match readMembers fuel after with
        | ((members, ending), left) => ((member :: members, ending), left)
      | _ => (([member], .open .malformed), none)

/-- One member: a name, a colon and a value. -/
def readMember : Nat → List Glyph → Reading (Draft × Draft)
  | 0, _ => ((.missing, .missing), none)
  | fuel + 1, text =>
    match readValue fuel text with
    | (key, none) => ((key, .broken .malformed), none)
    | (key, some rest) =>
      match skipSpace rest with
      | [] => ((key, .missing), none)
      | some ':' :: after => match readValue fuel after with
        | (value, left) => ((key, value), left)
      | _ => ((key, .broken .malformed), none)

end

/-- The draft of a whole text: the value, and whether nothing but blanks follows. -/
structure Document where
  value : Draft
  /-- Whether the text ends after the value. -/
  complete : Bool

/-- Reads a text. Each level of nesting takes three steps down and at least one glyph. -/
def Document.ofGlyphs (text : List Glyph) : Document :=
  match readValue (3 * text.length + 1) text with
  | (value, some rest) => ⟨value, (skipSpace rest).isEmpty⟩
  | (value, none) => ⟨value, false⟩

/-- Reads a sequence of bytes, which need not be a text. -/
def Document.ofBytes (bytes : ByteArray) : Document := .ofGlyphs (Text.glyphs bytes)

/-- Reads a text. -/
def Document.ofString (s : String) : Document := .ofGlyphs (Text.glyphsOf s)

end RuleCatalog.Json
