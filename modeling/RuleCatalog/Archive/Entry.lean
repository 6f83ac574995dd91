import RuleCatalog.Archive.Gzip
import RuleCatalog.Archive.Header
import RuleCatalog.Path

/-! # Entries of an archive

What an archive holds, in order. A member can say something about the member after it: that it has
a name too long for its header, or other attributes. Such members are gathered in a `Pending` and
are not entries themselves. An archive ends with a blank header or where its bytes end; reading it
fails as a whole if anything on the way there is damaged.
-/

namespace RuleCatalog.Archive

/-- Something in an archive. -/
structure Entry where
  isFile : Bool
  path : List UInt8
  data : List UInt8
  deriving DecidableEq, Repr

/-! ## Attributes -/

/-- One line of attributes: its length, a key and a value. -/
def attribute? (line : List UInt8) : Option (List UInt8 × List UInt8) := do
  let lengthText := line.takeWhile (· != 32)
  let field ← match line.drop lengthText.length with
    | _ :: field => some field
    | [] => none
  let length ← Field.digits? 10 (← String.fromUTF8? ⟨lengthText.toArray⟩).toList
  if line.length + 1 ≠ length then none
  else
    let key := field.takeWhile (· != 61)
    match field.drop key.length with
    | _ :: value => some (key, value)
    | [] => none

/-- The lines of attributes up to the first empty one, those that are no attributes missing. -/
def attributes (data : List UInt8) : List (Option (List UInt8 × List UInt8)) :=
  ((Path.segments 10 data).takeWhile (· ≠ [])).map attribute?

def pathKey : List UInt8 := "path".toUTF8.data.toList
def sizeKey : List UInt8 := "size".toUTF8.data.toList

/-- The value of the first attribute with a key, whatever stands before it. -/
def attributeValue? (key data : List UInt8) : Option (List UInt8) :=
  ((attributes data).filterMap id).lookup key

/-- The size among attributes, if every line before it is an attribute. -/
def attributeSize? (data : List UInt8) : Option Nat := do
  let readable := (attributes data).takeWhile Option.isSome
  let value ← (readable.filterMap id).lookup sizeKey
  Field.digits? 10 (← String.fromUTF8? ⟨value.toArray⟩).toList

/-! ## Members with holes -/

/-- How far a file with holes is described: the end of the last part, and how many bytes of data
are left for further parts. -/
structure Parts where
  reached : Nat
  left : Nat

/-- How many bytes describe one part. -/
def partSize : Nat := 24

/-- Takes in the description of a part. Parts come in order, each from a block of its own. -/
def Parts.add (size : Nat) (p : Parts) (part : List UInt8) : Option Parts := do
  let startField := part.take 12
  let lengthField := part.drop 12
  if startField.headD 0 == 0 || lengthField.headD 0 == 0 then return p
  let start ← Field.octal? startField
  let length ← Field.octal? lengthField
  if length ≠ 0 ∧ (size - p.left) % blockSize ≠ 0 then none
  else if start < p.reached then none
  else if Field.bound ≤ start + length then none
  else if p.left < length then none
  else some ⟨start + length, p.left - length⟩

/-- The descriptions of `n` parts in a row. -/
def partsIn (n : Nat) (bytes : List UInt8) : List (List UInt8) :=
  (List.range n).map fun i => (bytes.drop (partSize * i)).take partSize

/-- Takes in blocks of further parts, each of which says whether another one follows. -/
def moreParts (size : Nat) (more : Bool) (p : Parts) (bytes : List UInt8) :
    Option (Parts × List UInt8) :=
  if !more then some (p, bytes)
  else if _enough : blockSize ≤ bytes.length then do
    let block := bytes.take blockSize
    let p ← (partsIn 21 block).foldlM (Parts.add size) p
    moreParts size ((block.drop 504).headD 0 == 1) p (bytes.drop blockSize)
  else none
  termination_by bytes.length
  decreasing_by simp [blockSize] at *; omega

/-- What follows the description of a file with holes. -/
def afterParts (h : Header) (size : Nat) (bytes : List UInt8) : Option (List UInt8) := do
  if !h.isGnu then none
  else
    let p ← (partsIn 4 (h.slice 386 96)).foldlM (Parts.add size) ⟨0, size⟩
    let (p, rest) ← moreParts size ((h.slice 482 1).headD 0 == 1) p bytes
    let real ← Field.octal? (h.slice 483 12)
    if p.reached = real ∧ p.left = 0 then some rest else none

/-! ## Members -/

/-- What has been said about the next member. -/
structure Pending where
  longName : Option (List UInt8)
  longLink : Option (List UInt8)
  attributes : Option (List UInt8)
  deriving DecidableEq, Repr

namespace Pending

/-- Nothing has been said. -/
def none : Pending := ⟨.none, .none, .none⟩

/-- The size of a member whose header says `size`. -/
def size (p : Pending) (size : Nat) : Nat :=
  if size = 0 then ((p.attributes.bind attributeSize?).getD 0) else size

/-- A long name without the zero byte at its end. -/
def withoutZero (name : List UInt8) : List UInt8 :=
  if name.getLast? = some 0 then name.dropLast else name

/-- The path of a member. -/
def path (p : Pending) (h : Header) : List UInt8 :=
  match p.longName with
  | some name => withoutZero name
  | .none => (p.attributes.bind (attributeValue? pathKey)).getD h.path

end Pending

/-- The first `n` elements and the rest, if there are so many. -/
def splitExactly (n : Nat) (bytes : List UInt8) : Option (List UInt8 × List UInt8) :=
  let first := bytes.take n
  if first.length = n then some (first, bytes.drop n) else none

theorem splitExactly_length {n : Nat} {bytes first rest : List UInt8}
    (split : splitExactly n bytes = some (first, rest)) : rest.length + n = bytes.length := by
  simp only [splitExactly] at split
  split at split
  · rename_i enough
    simp only [Option.some.injEq, Prod.mk.injEq] at split
    simp only [List.length_take] at enough
    rw [← split.2, List.length_drop]
    omega
  · simp at split

/-- One member: its header, its data, and the bytes after it. -/
structure Member where
  header : Header
  data : List UInt8
  rest : List UInt8

/-- Where the data of a member begins in the bytes after its header. -/
def dataOf (h : Header) (size : Nat) (rest : List UInt8) : Option (List UInt8) :=
  if h.kind = .sparse then afterParts h size rest else some rest

/-- The member that begins with a header which is not blank. -/
def Member.read (p : Pending) (h : Header) (rest : List UInt8) : Option Member :=
  if h.intact then do
    let stated ← h.size?
    let start ← dataOf h (p.size stated) rest
    let (filled, rest) ← splitExactly (rounded (p.size stated)) start
    return ⟨h, filled.take (p.size stated), rest⟩
  else none

theorem moreParts_length {size : Nat} {more : Bool} {p q : Parts} {bytes rest : List UInt8}
    (taken : moreParts size more p bytes = some (q, rest)) : rest.length ≤ bytes.length := by
  fun_induction moreParts size more p bytes with
  | case1 => simp_all
  | case2 more p bytes _ _ block step =>
    simp only [bind, Option.bind_eq_some_iff] at taken
    obtain ⟨_, _, taken⟩ := taken
    have := step _ taken
    simp only [List.length_drop] at this
    omega
  | case3 => simp at taken

theorem afterParts_length {h : Header} {size : Nat} {bytes rest : List UInt8}
    (taken : afterParts h size bytes = some rest) : rest.length ≤ bytes.length := by
  simp only [afterParts] at taken
  split at taken
  · simp at taken
  · simp only [bind, Option.bind_eq_some_iff] at taken
    obtain ⟨_, _, ⟨q, after⟩, more, _, _, taken⟩ := taken
    have := moreParts_length more
    split at taken <;> simp_all

theorem dataOf_length {h : Header} {size : Nat} {bytes rest : List UInt8}
    (taken : dataOf h size bytes = some rest) : rest.length ≤ bytes.length := by
  simp only [dataOf] at taken
  split at taken
  · exact afterParts_length taken
  · simp_all

theorem Member.read_length {p : Pending} {h : Header} {rest : List UInt8} {m : Member}
    (read : Member.read p h rest = some m) : m.rest.length ≤ rest.length := by
  simp only [Member.read] at read
  split at read
  · simp only [bind, Option.bind_eq_some_iff, pure, Option.some.injEq] at read
    obtain ⟨stated, _, start, begun, ⟨filled, left⟩, split, rfl⟩ := read
    have := splitExactly_length split
    have := dataOf_length begun
    simp only
    omega
  · simp at read

/-- What a member means after what has been said: either there is more to say, or it is an entry. -/
def Member.take (m : Member) (p : Pending) : Option (Pending ⊕ Entry) :=
  match m.header.kind with
  | .longName => if p.longName.isSome then none else some (.inl { p with longName := m.data })
  | .longLink => if p.longLink.isSome then none else some (.inl { p with longLink := m.data })
  | .attributes =>
    if p.attributes.isSome then none else some (.inl { p with attributes := m.data })
  | kind => some (.inr ⟨kind = .file, p.path m.header, m.data⟩)

/-- The entries in bytes that end properly if they are `whole`, after what has been said. -/
def entriesAfter (whole : Bool) (p : Pending) (bytes : List UInt8) : Option (List Entry) :=
  if bytes.isEmpty then
    if whole ∧ p = .none then some [] else none
  else
    match _split : splitExactly blockSize bytes with
    | none => none
    | some (block, rest) =>
      if Header.isBlank ⟨block⟩ then
        if p = .none then some [] else none
      else
        match _read : Member.read p ⟨block⟩ rest with
        | none => none
        | some m =>
          match m.take p with
          | none => none
          | some (.inl said) => entriesAfter whole said m.rest
          | some (.inr entry) => (entriesAfter whole .none m.rest).map (entry :: ·)
  termination_by bytes.length
  decreasing_by
    all_goals
      have := splitExactly_length _split
      have := Member.read_length _read
      simp only [blockSize] at *
      omega

/-- The entries of an unpacked archive, or nothing if it is damaged. -/
def entries (s : Stream) : Option (List Entry) := entriesAfter s.whole .none s.bytes

end RuleCatalog.Archive
