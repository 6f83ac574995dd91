import RuleCatalog.Proofs.Json.Values

/-! # Records read back

A record is written as an object whose members stand in the order of its fields, some of them left
out. Such an object is read back field by field: no member is unknown and none is given twice.
-/

namespace RuleCatalog.Json

variable {σ : Type}

/-- The fields of a record in JSON. -/
abbrev Fields (σ : Type) := List (Field Node (Except Error) σ)

/-- The members of a record with given values, one for each field, or none if it is left out. -/
def written : Fields σ → List (Option Value) → List (String × Value)
  | field :: fields, some value :: values => (field.name, value) :: written fields values
  | _ :: fields, none :: values => written fields values
  | _, _ => []

/-- What the values make of a record, one field after another. -/
def readBack (depth : Nat) : Fields σ → List (Option Value) → σ → Except Error σ
  | field :: fields, some value :: values, soFar => do
    let change ← field.read ⟨draftOf value, depth⟩
    readBack depth fields values (change soFar)
  | _ :: fields, none :: values, soFar => readBack depth fields values soFar
  | _, _, soFar => .ok soFar

/-- Every field that is required has a value. -/
def Complete : Fields σ → List (Option Value) → Prop
  | field :: fields, value :: values =>
    (field.required = true → value.isSome) ∧ Complete fields values
  | [], [] => True
  | _, _ => False

variable {fields : Fields σ} {values : List (Option Value)}

theorem Complete.mem_written (complete : Complete fields values)
    {field : Field Node (Except Error) σ} (member : field ∈ fields)
    (required : field.required = true) :
    field.name ∈ (written fields values).map Prod.fst := by
  induction fields generalizing values with
  | nil => cases member
  | cons first fields ih =>
    match values, complete with
    | none :: values, ⟨given, complete⟩ =>
      rcases List.mem_cons.mp member with rfl | later
      · exact absurd (given required) (by simp)
      · exact ih complete later
    | some value :: values, ⟨_, complete⟩ =>
      rcases List.mem_cons.mp member with rfl | later
      · exact List.mem_cons_self ..
      · exact List.mem_cons_of_mem _ (ih complete later)

/-- A member of a field that has not been seen changes the record. -/
theorem recordMembers_cons {depth : Nat} {field : Field Node (Except Error) σ} {value : Value}
    {rest : List (Draft × Draft)} {seen : List String} {soFar : σ}
    (known : fields.find? (·.name == field.name) = some field) (new : field.name ∉ seen) :
    Node.recordMembers depth fields
        ((.text (.ok field.name) (.ok ()), draftOf value) :: rest) ⟨seen, soFar⟩ =
      (field.read ⟨draftOf value, depth⟩).bind fun change =>
        Node.recordMembers depth fields rest ⟨field.name :: seen, change soFar⟩ := by
  have fresh : seen.contains field.name = false := by simpa using new
  simp only [Node.recordMembers, Draft.name, liftFault, bind, Except.bind, known, fresh]
  rfl

/-- The members that are left, after those of the fields before. -/
theorem recordMembers_written (depth : Nat) (before : Fields σ) (values : List (Option Value))
    {seen : List String} (soFar : σ)
    (distinct : ((before ++ fields).map Field.name).Nodup)
    (earlier : seen ⊆ before.map Field.name) :
    Node.recordMembers depth (before ++ fields) (memberDraftsOf (written fields values))
        ⟨seen, soFar⟩ =
      (readBack depth fields values soFar).map fun r =>
        ⟨((written fields values).map Prod.fst).reverse ++ seen, r⟩ := by
  induction fields generalizing before values seen soFar with
  | nil => simp [written, readBack, memberDraftsOf, Node.recordMembers, Except.map]
  | cons field fields ih =>
    have step : before ++ field :: fields = (before ++ [field]) ++ fields := by simp
    have other : field.name ∉ before.map Field.name := by
      rw [List.map_append, List.nodup_append] at distinct
      exact fun member => distinct.2.2 _ member _ (List.mem_cons_self ..) rfl
    match values with
    | [] => simp [written, readBack, memberDraftsOf, Node.recordMembers, Except.map]
    | none :: values =>
      rw [step] at distinct ⊢
      exact ih (before ++ [field]) values soFar distinct fun name member => by simp [earlier member]
    | some value :: values =>
      have known : (before ++ field :: fields).find? (·.name == field.name) = some field := by
        have none : before.find? (·.name == field.name) = none := by
          rw [List.find?_eq_none]
          intro f member same
          exact other (List.mem_map.mpr ⟨f, member, beq_iff_eq.mp same⟩)
        rw [List.find?_append, none]
        simp
      simp only [written, memberDraftsOf, readBack]
      rw [recordMembers_cons known fun member => other (earlier member)]
      cases field.read ⟨draftOf value, depth⟩ with
      | error e => rfl
      | ok change =>
        have included : field.name :: seen ⊆ (before ++ [field]).map Field.name := by
          rw [List.map_append]
          exact List.cons_subset.mpr ⟨by simp, fun name member => by simp [earlier member]⟩
        rw [step] at distinct ⊢
        have later := ih (before ++ [field]) values (change soFar) distinct included
        simpa [Except.bind, bind] using later

/-- A record is read back field by field. -/
theorem record_written (title : String) {depth : Nat} {absent : σ}
    (distinct : (fields.map Field.name).Nodup) (complete : Complete fields values) :
    Node.record title fields absent ⟨draftOf (.object (written fields values)), depth + 2⟩ =
      readBack (depth + 1) fields values absent := by
  have members := recordMembers_written (depth + 1) [] values absent (by simpa using distinct)
    (List.nil_subset _)
  have none : firstMissing? fields (((written fields values).map Prod.fst).reverse ++ []) =
      none := by
    rw [firstMissing?, Option.map_eq_none_iff, List.find?_eq_none]
    intro field member missing
    obtain ⟨required, unseen⟩ := (Bool.and_eq_true ..).mp missing
    have given := complete.mem_written member required
    simp_all
  simp only [Node.record, draftOf, enter, bind, Except.bind]
  rw [List.nil_append] at members
  rw [members]
  cases readBack (depth + 1) fields values absent with
  | error e => rfl
  | ok r =>
    simp only [Except.map, none]
    rfl

/-! ## Fields -/

section Reads

variable {ν α : Type} {name : String} {read : ν → Except Error α} {put : α → σ → σ} {node : ν}

@[simp] theorem needed_read : (Field.needed name read put).read node = (read node).map put := by
  change (do return put (← read node)) = _
  cases read node <;> rfl

@[simp] theorem optional_read : (Field.optional name read put).read node = (read node).map put := by
  change (do return put (← read node)) = _
  cases read node <;> rfl

end Reads

@[simp] theorem form_text : form.text = Node.text := rfl

@[simp] theorem form_value : form.value = Node.value := rfl

@[simp] theorem form_optional {α : Type} : form.optional (α := α) = Node.optional := rfl

@[simp] theorem form_list {α : Type} : form.list (α := α) = Node.list := rfl

@[simp] theorem form_choice : form.choice = Node.choice := rfl

@[simp] theorem text_string {s : String} {depth : Nat} :
    Node.text ⟨draftOf (.string s), depth⟩ = .ok s := rfl

@[simp] theorem optional_string {α : Type} {read : Node → Except Error α} {s : String}
    {depth : Nat} : Node.optional read ⟨draftOf (.string s), depth⟩ =
      (read ⟨draftOf (.string s), depth⟩).map some := rfl

@[simp] theorem choice_string {names : List String} {s : String} {depth : Nat} :
    Node.choice names ⟨draftOf (.string s), depth⟩ = Node.known names s := rfl

@[simp] theorem value_node {v : Value} {depth : Nat} :
    Node.value ⟨draftOf v, depth⟩ = Node.valueOf depth (draftOf v) := rfl

theorem draftsOf_eq_map (items : List Value) : draftsOf items = items.map draftOf := by
  induction items with
  | nil => rfl
  | cons item items ih => simp [draftsOf, ih]

/-- A written list is read back item by item. -/
theorem list_array {α : Type} {read : Node → Except Error α} {items : List Value} {depth : Nat} :
    Node.list read ⟨draftOf (.array items), depth + 2⟩ =
      items.mapM fun item => read ⟨draftOf item, depth + 1⟩ := by
  simp only [Node.list, draftOf, enter, draftsOf_eq_map, List.mapM_map, Function.comp_def, bind,
    Except.bind]
  cases items.mapM fun item => read ⟨draftOf item, depth + 1⟩ <;> rfl

/-- The entries that are left of a table of texts, after those before. -/
theorem foldlM_strings (depth : Nat) (before entries : List (String × String))
    (ascending : Ascending ((before ++ entries).map Prod.fst)) :
    (memberDraftsOf (entries.map fun (name, text) => (name, .string text))).foldlM
        (fun soFar (key, value) => do
          let name ← liftFault key.name
          return insertMember name (← Node.text ⟨value, depth⟩) soFar) before =
      .ok (before ++ entries) := by
  induction entries generalizing before with
  | nil => simp [memberDraftsOf, pure, Except.pure]
  | cons entry entries ih =>
    obtain ⟨name, text⟩ := entry
    have last : insertMember name text before = before ++ [(name, text)] := by
      apply insertMember_last
      intro other member
      rw [List.map_append] at ascending
      exact (List.pairwise_append.mp ascending).2.2 other member name (List.mem_cons_self ..)
    have step := ih (before ++ [(name, text)]) (by simpa using ascending)
    rw [List.append_assoc, List.singleton_append] at step
    rw [← step, ← last]
    rfl

/-- A written table of texts is read back if it is in order. -/
theorem table_strings {entries : List (String × String)}
    (ascending : Ascending (entries.map Prod.fst)) (depth : Nat) :
    Node.table Node.text ⟨draftOf (.object (entries.map fun (name, text) =>
      (name, .string text))), depth + 2⟩ = .ok entries := by
  have read := foldlM_strings (depth + 1) [] entries ascending
  simp only [Node.table, draftOf, enter, bind, Except.bind] at read ⊢
  rw [read]
  rfl

end RuleCatalog.Json
