import RuleCatalog.Proofs.Json.Numerals

/-! # Layouts

The two written forms of a value differ in nothing but the blanks between tokens. A layout says
which blanks stand where, so that what is said of reading is said of both forms at once.
-/

namespace RuleCatalog.Json

open Text (Glyph)

/-! ## Properties of all parts -/

mutual

/-- Whether all numbers of a value have a property, and the names of all its objects another one. -/
def Value.Every (number : Number → Prop) (names : List String → Prop) : Value → Prop
  | .number n => number n
  | .array items => Value.EveryItem number names items
  | .object members => names (members.map Prod.fst) ∧ Value.EveryMember number names members
  | .null | .bool _ | .string _ => True

def Value.EveryItem (number : Number → Prop) (names : List String → Prop) : List Value → Prop
  | [] => True
  | item :: rest => item.Every number names ∧ Value.EveryItem number names rest

def Value.EveryMember (number : Number → Prop) (names : List String → Prop) :
    List (String × Value) → Prop
  | [] => True
  | (_, value) :: rest => value.Every number names ∧ Value.EveryMember number names rest

end

theorem everyItem_iff {number : Number → Prop} {names : List String → Prop} {items : List Value} :
    Value.EveryItem number names items ↔ ∀ item ∈ items, item.Every number names := by
  induction items with
  | nil => simp [Value.EveryItem]
  | cons item items ih => simp [Value.EveryItem, ih]

theorem everyMember_iff {number : Number → Prop} {names : List String → Prop}
    {members : List (String × Value)} :
    Value.EveryMember number names members ↔
      ∀ member ∈ members, member.2.Every number names := by
  induction members with
  | nil => simp [Value.EveryMember]
  | cons member members ih => simp [Value.EveryMember, ih]

section Every

variable {P Q R : Number → Prop} {N M K : List String → Prop}

mutual

/-- What follows from two properties for a number and for the names of an object, follows for all of
a value. -/
theorem Value.Every.mp (number : ∀ n, P n → Q n → R n) (names : ∀ l, N l → M l → K l) :
    ∀ {v : Value}, v.Every P N → v.Every Q M → v.Every R K
  | .number n, first, second => number n first second
  | .array _, first, second => Value.EveryItem.mp number names first second
  | .object _, first, second =>
    ⟨names _ first.1 second.1, Value.EveryMember.mp number names first.2 second.2⟩
  | .null, _, _ | .bool _, _, _ | .string _, _, _ => trivial

theorem Value.EveryItem.mp (number : ∀ n, P n → Q n → R n) (names : ∀ l, N l → M l → K l) :
    ∀ {items : List Value},
      Value.EveryItem P N items → Value.EveryItem Q M items → Value.EveryItem R K items
  | [], _, _ => trivial
  | _ :: _, first, second =>
    ⟨Value.Every.mp number names first.1 second.1,
      Value.EveryItem.mp number names first.2 second.2⟩

theorem Value.EveryMember.mp (number : ∀ n, P n → Q n → R n) (names : ∀ l, N l → M l → K l) :
    ∀ {members : List (String × Value)},
      Value.EveryMember P N members → Value.EveryMember Q M members →
        Value.EveryMember R K members
  | [], _, _ => trivial
  | _ :: _, first, second =>
    ⟨Value.Every.mp number names first.1 second.1,
      Value.EveryMember.mp number names first.2 second.2⟩

end

theorem Value.Every.imp {v : Value} (number : ∀ n, P n → Q n) (names : ∀ l, N l → M l)
    (every : v.Every P N) : v.Every Q M :=
  Value.Every.mp (fun n holds _ => number n holds) (fun l holds _ => names l holds) every every

end Every

/-- A value in which all numbers are finite. -/
abbrev Value.Finite : Value → Prop := Value.Every (·.isFinite = true) fun _ => True

/-! ## Layouts -/

/-- Characters that may stand between tokens. -/
def Blanks (cs : List Char) : Prop := ∀ c ∈ cs, isSpace (some c) = true

/-- The blanks between the tokens of a value. -/
structure Layout where
  /-- What stands before the items of a collection at a level. -/
  inner : Nat → List Char
  /-- What stands before the end of a collection at a level. -/
  outer : Nat → List Char
  /-- What stands between a colon and a value. -/
  gap : List Char
  inner_blanks : ∀ level, Blanks (inner level)
  outer_blanks : ∀ level, Blanks (outer level)
  gap_blanks : Blanks gap

namespace Layout

theorem blanks_newLine (level : Nat) : Blanks (newLine level) := by
  intro c member
  rcases List.mem_cons.mp member with rfl | space
  · rfl
  · rw [List.eq_of_mem_replicate space]
    rfl

/-- No blanks at all. -/
def compact : Layout := ⟨fun _ => [], fun _ => [], [], nofun, nofun, nofun⟩

/-- One item a line. -/
def pretty : Layout where
  inner level := newLine (level + 1)
  outer level := newLine level
  gap := [' ']
  inner_blanks _ := blanks_newLine _
  outer_blanks _ := blanks_newLine _
  gap_blanks := by simp [Blanks, isSpace]

variable (l : Layout)

mutual

/-- A value laid out at a level. -/
def write (level : Nat) : Value → List Char
  | .null => ['n', 'u', 'l', 'l']
  | .bool true => ['t', 'r', 'u', 'e']
  | .bool false => ['f', 'a', 'l', 's', 'e']
  | .number n => writeNumber n
  | .string s => writeString s
  | .array [] => ['[', ']']
  | .array (item :: rest) =>
    '[' :: (l.inner level ++ (write (level + 1) item ++ writeItems level rest))
  | .object [] => ['\x7b', '\x7d']
  | .object ((name, value) :: rest) =>
    '\x7b' :: (l.inner level ++ (writeString name ++ (':' :: (l.gap ++
      (write (level + 1) value ++ writeMembers level rest)))))

/-- The items after the first, and the closing bracket. -/
def writeItems (level : Nat) : List Value → List Char
  | [] => l.outer level ++ [']']
  | item :: rest => ',' :: (l.inner level ++ (write (level + 1) item ++ writeItems level rest))

/-- The members after the first, and the closing brace. -/
def writeMembers (level : Nat) : List (String × Value) → List Char
  | [] => l.outer level ++ ['\x7d']
  | (name, value) :: rest =>
    ',' :: (l.inner level ++ (writeString name ++ (':' :: (l.gap ++
      (write (level + 1) value ++ writeMembers level rest)))))

end

mutual

theorem write_compact (level : Nat) : ∀ v : Value, compact.write level v = writeCompact v
  | .null | .bool true | .bool false | .number _ | .string _ | .array [] | .object [] => rfl
  | .array (item :: rest) => by
    simp only [write, writeCompact, write_compact (level + 1) item, writeItems_compact level rest]
    rfl
  | .object ((name, value) :: rest) => by
    simp only [write, writeCompact, write_compact (level + 1) value,
      writeMembers_compact level rest]
    rfl

theorem writeItems_compact (level : Nat) :
    ∀ items : List Value, compact.writeItems level items = writeCompactItems items
  | [] => rfl
  | item :: rest => by
    simp only [writeItems, writeCompactItems, write_compact (level + 1) item,
      writeItems_compact level rest]
    rfl

theorem writeMembers_compact (level : Nat) :
    ∀ members : List (String × Value), compact.writeMembers level members =
      writeCompactMembers members
  | [] => rfl
  | (name, value) :: rest => by
    simp only [writeMembers, writeCompactMembers, write_compact (level + 1) value,
      writeMembers_compact level rest]
    rfl

end

mutual

theorem write_pretty (level : Nat) : ∀ v : Value, pretty.write level v = writePretty level v
  | .null | .bool true | .bool false | .number _ | .string _ | .array [] | .object [] => rfl
  | .array (item :: rest) => by
    simp only [write, writePretty, write_pretty (level + 1) item, writeItems_pretty level rest]
    rfl
  | .object ((name, value) :: rest) => by
    simp only [write, writePretty, write_pretty (level + 1) value,
      writeMembers_pretty level rest]
    rfl

theorem writeItems_pretty (level : Nat) :
    ∀ items : List Value, pretty.writeItems level items = writePrettyItems level items
  | [] => rfl
  | item :: rest => by
    simp only [writeItems, writePrettyItems, write_pretty (level + 1) item,
      writeItems_pretty level rest]
    rfl

theorem writeMembers_pretty (level : Nat) :
    ∀ members : List (String × Value), pretty.writeMembers level members =
      writePrettyMembers level members
  | [] => rfl
  | (name, value) :: rest => by
    simp only [writeMembers, writePrettyMembers, write_pretty (level + 1) value,
      writeMembers_pretty level rest]
    rfl

end

end Layout

end RuleCatalog.Json
