import RuleCatalog.Proofs.Json.Records
import RuleCatalog.Proofs.Yaml.Decoded

/-! # What a JSON document decodes to

What is known of a decoded value before the document is: a list has what every item has, a table
stands in the order of its names, and a record keeps what its absent form has and every member keeps,
whether it is written as an object or as an array.
-/

namespace RuleCatalog.Json

variable {α β σ : Type}

/-- If decoding succeeds, its result has a property. -/
def Gives (P : α → Prop) (x : Except Error α) : Prop := ∀ a, x = .ok a → P a

section Gives

variable {P : α → Prop} {Q : β → Prop}

theorem gives_ok {a : α} (holds : P a) : Gives P (.ok a) := by
  rintro b ⟨⟩
  exact holds

theorem gives_error {e : Error} : Gives P (.error e) := nofun

theorem gives_bind {x : Except Error α} {f : α → Except Error β} (first : Gives P x)
    (next : ∀ a, P a → Gives Q (f a)) : Gives Q (x >>= f) := by
  cases x with
  | error e => exact gives_error
  | ok a => exact next a (first a rfl)

/-- Where nothing has to be known of the first result. -/
theorem gives_bind_any {x : Except Error α} {f : α → Except Error β}
    (next : ∀ a, Gives Q (f a)) : Gives Q (x >>= f) :=
  gives_bind (P := fun _ => True) (fun _ _ => trivial) fun a _ => next a

theorem gives_map {x : Except Error α} {f : α → β} (holds : Gives (fun a => Q (f a)) x) :
    Gives Q (x.map f) := by
  cases x with
  | error e => exact gives_error
  | ok a => exact gives_ok (holds a rfl)

theorem gives_mapM {f : α → Except Error β} (each : ∀ a, Gives Q (f a)) (l : List α) :
    Gives (fun bs => ∀ b ∈ bs, Q b) (l.mapM f) := by
  induction l with
  | nil => exact gives_ok nofun
  | cons a l ih =>
    rw [List.mapM_cons]
    refine gives_bind (each a) fun b here => gives_bind ih fun bs later => gives_ok ?_
    exact List.forall_mem_cons.mpr ⟨here, later⟩

theorem gives_foldlM {f : β → α → Except Error β} (step : ∀ b a, Q b → Gives Q (f b a))
    (l : List α) {start : β} (holds : Q start) : Gives Q (l.foldlM f start) := by
  induction l generalizing start with
  | nil => exact gives_ok holds
  | cons a l ih =>
    rw [List.foldlM_cons]
    exact gives_bind (step start a holds) fun b next => ih next

end Gives

theorem gives_unexpected {P : α → Prop} {expected : String} {draft : Draft} :
    Gives P (unexpected expected draft) := by
  cases draft with
  | number read => exact gives_bind_any fun _ => gives_error
  | text read => exact gives_bind_any fun _ => gives_error
  | _ => exact gives_error

/-! ## Texts and what may be absent -/

namespace Node

theorem gives_parsed {P : α → Prop} {expected : String} {parse : String → Except String α}
    (each : ∀ s a, parse s = .ok a → P a) (node : Node) :
    Gives P (Node.parsed expected parse node) := by
  unfold Node.parsed
  refine gives_bind_any fun s => ?_
  split
  · next parsed => exact gives_ok (each s _ parsed)
  · exact gives_error

theorem gives_optional {P : α → Prop} {read : Node → Except Error α}
    (given : ∀ node, Gives P (read node)) (node : Node) :
    Gives (fun found => ∀ a ∈ found, P a) (Node.optional read node) := by
  unfold Node.optional
  split
  · exact gives_ok nofun
  · refine gives_map fun a read b same => ?_
    cases same
    exact given node a read

/-! ## Lists and tables -/

theorem gives_list {P : α → Prop} {read : Node → Except Error α}
    (each : ∀ item, Gives P (read item)) (node : Node) : Gives (fun items => ∀ item ∈ items, P item) (Node.list read node) := by
  unfold Node.list
  split
  · exact gives_bind_any fun inner => gives_bind (gives_mapM (fun item => each ⟨item, inner⟩) _)
      fun values all => gives_bind_any fun _ => gives_ok all
  · exact gives_unexpected

/-- The names of a table ascend, however its entries were written. -/
theorem gives_table {read : Node → Except Error α} (node : Node) :
    Gives (fun entries => Ascending (entries.map Prod.fst)) (Node.table read node) := by
  unfold Node.table
  split
  · refine gives_bind_any fun inner => gives_bind
      (P := fun entries => Ascending (entries.map Prod.fst)) ?_
      fun entries ascending => gives_bind_any fun _ => gives_ok ascending
    refine gives_foldlM (fun soFar entry ascending => ?_) _ List.Pairwise.nil
    exact gives_bind_any fun name => gives_bind_any fun value =>
      gives_ok (ascending_insertMember ascending)
  · exact gives_unexpected

/-! ## Records -/

/-- Whatever is read for the field, what holds of a record holds of it with the member set. -/
def Keeps (P : σ → Prop) (field : Field Node (Except Error) σ) : Prop :=
  ∀ node, Gives (fun change => ∀ s, P s → P (change s)) (field.read node)

section Keeps

variable {P : σ → Prop} {Q : α → Prop} {name : String} {read : Node → Except Error α}
  {put : α → σ → σ} {fields : Fields σ}

theorem keeps_needed (given : ∀ node, Gives Q (read node)) (kept : ∀ a s, Q a → P s → P (put a s)) :
    Keeps P (.needed name read put) := fun node => by
  rw [needed_read]
  exact gives_map fun a success s holds => kept a s (given node a success) holds

theorem keeps_optional (given : ∀ node, Gives Q (read node))
    (kept : ∀ a s, Q a → P s → P (put a s)) : Keeps P (.optional name read put) := fun node => by
  rw [optional_read]
  exact gives_map fun a success s holds => kept a s (given node a success) holds

theorem gives_recordMembers (keeps : ∀ field ∈ fields, Keeps P field) (depth : Nat)
    (members : List (Draft × Draft)) {soFar : Progress σ} (holds : P soFar.value) :
    Gives (fun done => P done.value) (recordMembers depth fields members soFar) := by
  induction members generalizing soFar with
  | nil => exact gives_ok holds
  | cons member rest ih =>
    refine gives_bind_any fun name => ?_
    split
    · exact gives_bind_any fun _ => ih holds
    · next field found =>
      have kept := keeps field (List.mem_of_find?_eq_some found)
      dsimp only
      split
      · exact gives_error
      · exact gives_bind (kept ⟨member.2, depth⟩) fun change keeping => ih (keeping _ holds)

theorem gives_recordItems (keeps : ∀ field ∈ fields, Keeps P field) {depth : Nat}
    {expected : String} {ending : Ending} (items : List Draft) {index : Nat} {soFar : σ} (holds : P soFar) :
    Gives P (recordItems depth expected ending index fields items soFar) := by
  induction fields generalizing items index soFar with
  | nil =>
    unfold recordItems
    split
    · exact gives_error
    · exact gives_bind_any fun _ => gives_ok holds
  | cons field fields ih =>
    obtain ⟨here, later⟩ := List.forall_mem_cons.mp keeps
    cases items with
    | nil =>
      refine gives_bind_any fun _ => ?_
      dsimp only
      split
      · exact gives_error
      · exact ih later [] holds
    | cons item items =>
      exact gives_bind (here ⟨item, depth⟩) fun change keeping => ih later items (keeping _ holds)

/-- What holds of a record without any member, and is kept by every field, holds of what is read. -/
theorem gives_record {title : String} {absent : σ} (start : P absent)
    (keeps : ∀ field ∈ fields, Keeps P field) (node : Node) :
    Gives P (Node.record title fields absent node) := by
  unfold Node.record
  split
  · refine gives_bind_any fun inner => gives_bind (gives_recordMembers keeps inner _ start)
      fun done holds => gives_bind_any fun _ => ?_
    split
    · exact gives_error
    · exact gives_ok holds
  · exact gives_bind_any fun inner => gives_recordItems keeps _ start
  · exact gives_unexpected

end Keeps

end Node

end RuleCatalog.Json
