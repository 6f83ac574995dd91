import RuleCatalog.Json.Decode
import RuleCatalog.Proofs.Json.Reading

/-! # Values read back

What decoding makes of a written value: the same value, except that its numbers are what their texts
are read back as, and nothing at all if arrays and objects are nested too deep or a number has no
reading. Names of members stay in their order if they are in ascending order already.
-/

namespace RuleCatalog.Json

/-! ## Values -/

mutual

/-- How deep arrays and objects are nested. -/
def Value.nesting : Value → Nat
  | .array items => Value.nestingOfItems items + 1
  | .object members => Value.nestingOfMembers members + 1
  | .null | .bool _ | .number _ | .string _ => 0

def Value.nestingOfItems : List Value → Nat
  | [] => 0
  | item :: rest => max item.nesting (Value.nestingOfItems rest)

def Value.nestingOfMembers : List (String × Value) → Nat
  | [] => 0
  | (_, value) :: rest => max value.nesting (Value.nestingOfMembers rest)

end

mutual

/-- The value with each number as its text is read back, if all have a reading. -/
def Value.reread? : Value → Option Value
  | .number n => n.reread.toOption.map .number
  | .array items => (Value.rereadItems? items).map .array
  | .object members => (Value.rereadMembers? members).map .object
  | .null => some .null
  | .bool b => some (.bool b)
  | .string s => some (.string s)

def Value.rereadItems? : List Value → Option (List Value)
  | [] => some []
  | item :: rest =>
    item.reread?.bind fun item => (Value.rereadItems? rest).map (item :: ·)

def Value.rereadMembers? : List (String × Value) → Option (List (String × Value))
  | [] => some []
  | (name, value) :: rest =>
    value.reread?.bind fun value => (Value.rereadMembers? rest).map ((name, value) :: ·)

end

/-- Names in strictly ascending order. -/
def Ascending (names : List String) : Prop := names.Pairwise (· < ·)

/-- A number as documents give them. -/
def Number.InRange : Number → Prop
  | .integer n => -(2 ^ 63) ≤ n ∧ n < 2 ^ 64
  | .float x => x.isFinite = true

theorem Number.InRange.finite {n : Number} (range : n.InRange) : n.isFinite = true := by
  cases n with
  | integer n => rfl
  | float x => exact range

/-- A value as documents give them. -/
abbrev Value.Ordinary : Value → Prop := Value.Every Number.InRange Ascending

theorem Value.Ordinary.finite {v : Value} (ordinary : v.Ordinary) : v.Finite :=
  ordinary.imp (fun _ => Number.InRange.finite) fun _ _ => trivial

/-! ## Members in order -/

variable {α : Type}

theorem insertMember_last {name : String} {value : α} {soFar : List (String × α)}
    (after : ∀ other ∈ soFar.map Prod.fst, other < name) :
    insertMember name value soFar = soFar ++ [(name, value)] := by
  induction soFar with
  | nil => rfl
  | cons member soFar ih =>
    obtain ⟨here, later⟩ := List.forall_mem_cons.mp after
    have noEarlier : ¬name < member.1 := String.lt_asymm here
    have other : name ≠ member.1 := fun same => String.lt_irrefl _ (same ▸ here)
    simp only [insertMember, noEarlier, other, if_false, List.cons_append, ih later]

/-! ## Numbers -/

/-- What was read, unless the text has turned out to be malformed. -/
def orMalformed {α : Type} : Option α → Except Error α
  | some a => .ok a
  | none => .error (.fault .malformed)

theorem map_orMalformed {β : Type} {f : α → β} {result : Option α} :
    (orMalformed result).map f = orMalformed (result.map f) := by
  cases result <;> rfl

theorem bind_orMalformed {β : Type} {f : α → Option β} {result : Option α} :
    ((orMalformed result).bind fun a => orMalformed (f a)) = orMalformed (result.bind f) := by
  cases result <;> rfl

theorem mapM_orMalformed {β : Type} {f : α → Except Error β} {g : α → Option β} {l : List α}
    (each : ∀ a ∈ l, f a = orMalformed (g a)) : l.mapM f = orMalformed (l.mapM g) := by
  induction l with
  | nil => rfl
  | cons a l ih =>
    obtain ⟨here, later⟩ := List.forall_mem_cons.mp each
    simp only [List.mapM_cons, ih later, here]
    cases g a with
    | none => rfl
    | some b => cases l.mapM g <;> rfl

/-- The text of a number is a whole numeral, so it can only be out of range. -/
theorem liftFault_reread {n : Number} (range : n.InRange) :
    liftFault n.reread = orMalformed n.reread.toOption := by
  obtain ⟨m, numeral⟩ := exists_numeral range.finite
  rw [numeral.reread, NumeralReading.whole]
  cases m.value? <;> rfl

/-! ## Decoding -/

namespace Node

theorem valueOf_array (depth : Nat) (items : List Draft) :
    valueOf (depth + 2) (.array items .closed) = (valuesOf (depth + 1) items).map .array := by
  simp only [valueOf, enter, bind, Except.bind]
  cases valuesOf (depth + 1) items <;> rfl

theorem valueOf_object (depth : Nat) (members : List (Draft × Draft)) :
    valueOf (depth + 2) (.object members .closed) =
      (membersOf (depth + 1) [] members).map .object := by
  simp only [valueOf, enter, bind, Except.bind]
  cases membersOf (depth + 1) [] members <;> rfl

theorem valuesOf_cons (depth : Nat) (item : Draft) (rest : List Draft) :
    valuesOf depth (item :: rest) =
      (valueOf depth item).bind fun v => (valuesOf depth rest).map (v :: ·) := by
  simp only [valuesOf, bind, Except.bind]
  cases valueOf depth item with
  | error e => rfl
  | ok v => cases valuesOf depth rest <;> rfl

theorem membersOf_cons (depth : Nat) (soFar : List (String × Value)) (name : String)
    (skip : Except Fault Unit) (value : Draft) (rest : List (Draft × Draft)) :
    membersOf depth soFar ((.text (.ok name) skip, value) :: rest) =
      (valueOf depth value).bind fun v => membersOf depth (insertMember name v soFar) rest := rfl

mutual

/-- A written value is decoded if it is not nested too deep. -/
theorem valueOf_draftOf : ∀ (v : Value) (depth : Nat), v.Ordinary →
    valueOf (depth + 1) (draftOf v) =
      orMalformed (if v.nesting ≤ depth then v.reread? else none)
  | .null, depth, _ => rfl
  | .bool b, depth, _ => rfl
  | .string s, depth, _ => rfl
  | .number n, depth, range => by
    simp only [draftOf, valueOf, liftFault_reread range, map_orMalformed, Value.nesting,
      Nat.zero_le, if_true, Value.reread?]
  | .array items, 0, _ => rfl
  | .array items, depth + 1, ordinary => by
    have inside := valuesOf_draftsOf items depth ordinary
    simp only [draftOf, valueOf_array, inside, map_orMalformed, Value.nesting,
      Nat.add_le_add_iff_right, Value.reread?]
    split <;> rfl
  | .object members, 0, _ => rfl
  | .object members, depth + 1, ordinary => by
    have inside := membersOf_memberDraftsOf members depth [] ordinary.2 ordinary.1
    simp only [draftOf, valueOf_object, inside, map_orMalformed, Value.nesting,
      Nat.add_le_add_iff_right, Value.reread?, List.nil_append, Option.map_id']
    split <;> rfl

/-- Written items are decoded if none of them is nested too deep. -/
theorem valuesOf_draftsOf : ∀ (items : List Value) (depth : Nat),
    Value.EveryItem Number.InRange Ascending items →
    valuesOf (depth + 1) (draftsOf items) =
      orMalformed (if Value.nestingOfItems items ≤ depth then Value.rereadItems? items else none)
  | [], _, _ => rfl
  | item :: rest, depth, ordinary => by
    have first := valueOf_draftOf item depth ordinary.1
    have more := valuesOf_draftsOf rest depth ordinary.2
    simp only [draftsOf, valuesOf_cons, first, more, map_orMalformed, bind_orMalformed,
      Value.nestingOfItems, Nat.max_le, Value.rereadItems?]
    by_cases here : item.nesting ≤ depth <;>
      by_cases later : Value.nestingOfItems rest ≤ depth <;> simp [here, later]

/-- Written members are decoded if none of their values is nested too deep. -/
theorem membersOf_memberDraftsOf : ∀ (members : List (String × Value)) (depth : Nat)
    (soFar : List (String × Value)), Value.EveryMember Number.InRange Ascending members →
    Ascending (soFar.map Prod.fst ++ members.map Prod.fst) →
    membersOf (depth + 1) soFar (memberDraftsOf members) =
      orMalformed (if Value.nestingOfMembers members ≤ depth then
        (Value.rereadMembers? members).map (soFar ++ ·) else none)
  | [], _, soFar, _, _ => by
    simp [memberDraftsOf, membersOf, Value.nestingOfMembers, Value.rereadMembers?, orMalformed]
  | (name, value) :: rest, depth, soFar, ordinary, ascending => by
    have first := valueOf_draftOf value depth ordinary.1
    have more := fun value' => membersOf_memberDraftsOf rest depth (soFar ++ [(name, value')])
      ordinary.2 (by simpa using ascending)
    have last : ∀ value', insertMember name value' soFar = soFar ++ [(name, value')] := by
      intro value'
      apply insertMember_last
      intro other member
      exact (List.pairwise_append.mp ascending).2.2 other member name (by simp)
    simp only [memberDraftsOf, membersOf_cons, first, last, more, bind_orMalformed,
      Value.nestingOfMembers, Nat.max_le, Value.rereadMembers?]
    by_cases here : value.nesting ≤ depth <;>
      by_cases later : Value.nestingOfMembers rest ≤ depth <;>
        simp [here, later, Option.map_bind, Function.comp_def]

end

end Node

/-! ## Values that are read back as they are -/

mutual

/-- A value is read back as it is if all its numbers are. -/
theorem reread?_eq_some_self_iff : ∀ v : Value,
    v.reread? = some v ↔ v.Every (fun n => n.reread = .ok n) fun _ => True
  | .null | .bool _ | .string _ => by simp [Value.reread?, Value.Every]
  | .number n => by
    simp only [Value.reread?, Value.Every]
    cases n.reread <;> simp [Except.toOption]
  | .array items => by
    simp [Value.reread?, Value.Every, ← rereadItems?_eq_some_self_iff items]
  | .object members => by
    simp [Value.reread?, Value.Every, ← rereadMembers?_eq_some_self_iff members]

theorem rereadItems?_eq_some_self_iff : ∀ items : List Value,
    Value.rereadItems? items = some items ↔
      Value.EveryItem (fun n => n.reread = .ok n) (fun _ => True) items
  | [] => by simp [Value.rereadItems?, Value.EveryItem]
  | item :: rest => by
    simp only [Value.rereadItems?, Value.EveryItem, ← reread?_eq_some_self_iff item,
      ← rereadItems?_eq_some_self_iff rest, Option.bind_eq_some_iff, Option.map_eq_some_iff,
      List.cons.injEq]
    grind

theorem rereadMembers?_eq_some_self_iff : ∀ members : List (String × Value),
    Value.rereadMembers? members = some members ↔
      Value.EveryMember (fun n => n.reread = .ok n) (fun _ => True) members
  | [] => by simp [Value.rereadMembers?, Value.EveryMember]
  | (name, value) :: rest => by
    simp only [Value.rereadMembers?, Value.EveryMember, ← reread?_eq_some_self_iff value,
      ← rereadMembers?_eq_some_self_iff rest, Option.bind_eq_some_iff, Option.map_eq_some_iff,
      List.cons.injEq, Prod.mk.injEq]
    grind

end

/-- A number that is the same when its text is read; every integer is. -/
def Number.Kept : Number → Prop
  | .integer _ => True
  | .float x => Number.reread (.float x) = .ok (.float x)

/-- Of the numbers in a document, a text may only give back floating point numbers as others. -/
theorem Number.reread_eq_self_iff {n : Number} (range : n.InRange) :
    n.reread = .ok n ↔ n.Kept := by
  cases n with
  | integer n => exact iff_of_true (reread_integer range.1 range.2) trivial
  | float x => rfl

theorem Value.Ordinary.reread?_eq_some_self_iff {v : Value} (ordinary : v.Ordinary) :
    v.reread? = some v ↔ v.Every Number.Kept fun _ => True := by
  rw [Json.reread?_eq_some_self_iff]
  exact ⟨Value.Every.mp (fun _ range => (Number.reread_eq_self_iff range).mp)
      (fun _ _ _ => trivial) ordinary,
    Value.Every.mp (fun _ range => (Number.reread_eq_self_iff range).mpr)
      (fun _ _ _ => trivial) ordinary⟩

/-- Whether a value is read back from its text as it is, where it may be nested so deep. -/
def Value.Kept (depth : Nat) (v : Value) : Prop :=
  v.nesting ≤ depth ∧ v.Every Number.Kept fun _ => True

end RuleCatalog.Json
