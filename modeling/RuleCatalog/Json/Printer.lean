import RuleCatalog.Json.Value
import RuleCatalog.Number.Shortest

/-! # Written JSON

Two layouts of a value: `compact`, without any blank, in which definitions are stored, and
`pretty`, with one member or item a line and two spaces for each level, in which a manifest is
written. Both write the members of an object in the order of the value.
-/

namespace RuleCatalog.Json

/-- The four hexadecimal digits of a control character. -/
def fourDigits (n : Nat) : List Char :=
  let ds := Nat.toDigits 16 n
  List.replicate (4 - ds.length) '0' ++ ds

/-- One character inside a written string. -/
def escapeChar (c : Char) : List Char :=
  if c = '"' then ['\\', '"']
  else if c = '\\' then ['\\', '\\']
  else if c = '\x08' then ['\\', 'b']
  else if c = '\x0c' then ['\\', 'f']
  else if c = '\n' then ['\\', 'n']
  else if c = '\r' then ['\\', 'r']
  else if c = '\t' then ['\\', 't']
  else if c.toNat < 0x20 then '\\' :: 'u' :: fourDigits c.toNat
  else [c]

/-- A written string. -/
def writeString (s : String) : List Char := '"' :: (s.toList.flatMap escapeChar ++ ['"'])

/-- A written number; what is not finite is written as `null`. -/
def writeNumber : Number → List Char
  | .integer n => (toString n).toList
  | .float x => (x.documentText "null" "null").toList

mutual

/-- A value without blanks. -/
def writeCompact : Value → List Char
  | .null => ['n', 'u', 'l', 'l']
  | .bool true => ['t', 'r', 'u', 'e']
  | .bool false => ['f', 'a', 'l', 's', 'e']
  | .number n => writeNumber n
  | .string s => writeString s
  | .array [] => ['[', ']']
  | .array (item :: rest) => '[' :: (writeCompact item ++ writeCompactItems rest)
  | .object [] => ['\x7b', '\x7d']
  | .object ((name, value) :: rest) =>
    '\x7b' :: (writeString name ++ ':' :: (writeCompact value ++ writeCompactMembers rest))

/-- The items after the first, and the closing bracket. -/
def writeCompactItems : List Value → List Char
  | [] => [']']
  | item :: rest => ',' :: (writeCompact item ++ writeCompactItems rest)

/-- The members after the first, and the closing brace. -/
def writeCompactMembers : List (String × Value) → List Char
  | [] => ['\x7d']
  | (name, value) :: rest =>
    ',' :: (writeString name ++ ':' :: (writeCompact value ++ writeCompactMembers rest))

end

/-- A new line at the given level. -/
def newLine (level : Nat) : List Char := '\n' :: List.replicate (2 * level) ' '

mutual

/-- A value laid out over several lines, its inner lines one level deeper than `level`. -/
def writePretty (level : Nat) : Value → List Char
  | .null => ['n', 'u', 'l', 'l']
  | .bool true => ['t', 'r', 'u', 'e']
  | .bool false => ['f', 'a', 'l', 's', 'e']
  | .number n => writeNumber n
  | .string s => writeString s
  | .array [] => ['[', ']']
  | .array (item :: rest) =>
    '[' :: (newLine (level + 1) ++ (writePretty (level + 1) item ++ writePrettyItems level rest))
  | .object [] => ['\x7b', '\x7d']
  | .object ((name, value) :: rest) =>
    '\x7b' :: (newLine (level + 1) ++ (writeString name ++ (':' :: ' ' ::
      (writePretty (level + 1) value ++ writePrettyMembers level rest))))

/-- The items after the first, and the closing bracket on a line of its own. -/
def writePrettyItems (level : Nat) : List Value → List Char
  | [] => newLine level ++ [']']
  | item :: rest =>
    ',' :: (newLine (level + 1) ++ (writePretty (level + 1) item ++ writePrettyItems level rest))

/-- The members after the first, and the closing brace on a line of its own. -/
def writePrettyMembers (level : Nat) : List (String × Value) → List Char
  | [] => newLine level ++ ['\x7d']
  | (name, value) :: rest =>
    ',' :: (newLine (level + 1) ++ (writeString name ++ (':' :: ' ' ::
      (writePretty (level + 1) value ++ writePrettyMembers level rest))))

end

/-- The text of a value without blanks. -/
def Value.compact (v : Value) : String := String.ofList (writeCompact v)

/-- The text of a value over several lines. -/
def Value.pretty (v : Value) : String := String.ofList (writePretty 0 v)

end RuleCatalog.Json
