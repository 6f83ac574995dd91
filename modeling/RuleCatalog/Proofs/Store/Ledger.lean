import RuleCatalog.Proofs.Result
import RuleCatalog.Proofs.Store.Run
import RuleCatalog.Proofs.Store.Statements
import RuleCatalog.Proofs.Yaml.Decoded

/-! # What a database gives back

A database keeps definitions as text, so a row that is found again may differ from the one that was
put. A ledger follows what was put into one place of a table, as the answers tell it: what is
committed there, and what the open transaction sees there.
-/

namespace RuleCatalog.Store

namespace Database

open Memory (Action)

/-! ## Runs -/

/-- The database after something was done, successfully or not. -/
def act (d : Database) : Action → Database
  | .begin t =>
    match d.begin t with
    | .ok opened => opened
    | .error _ => d
  | .ask h r => (answer h r d).2
  | .commit t => (d.commit t).2
  | .rollback t => d.rollback t

/-- The database after one thing after another was done. -/
def run (d : Database) (actions : List Action) : Database := actions.foldl act d

/-! ## Ledgers -/

/-- The row as it is stored. -/
def asText {α : Type} (text : α → String) (row : ContentRow α) : ContentRow String :=
  row.withDefinition (text row.definition)

/-- A place for content. -/
structure Shelf (α : Type) where
  /-- The row that is stored there. -/
  stored? : Rows → Option (ContentRow String)
  text : α → String
  /-- The row that was put there, if the answer to a request says so. -/
  put? : (r : Request) → Except Error r.Answer → Option (ContentRow α)
  put?_error : ∀ r e, put? r (.error e) = none
  stored?_empty : stored? .empty = none
  stored?_answer : ∀ t r tx, stored? (Transaction.answer t r tx).2.rows =
    ((put? r (Transaction.answer t r tx).1).map (asText text)).or (stored? tx.rows)

/-- What was put into a place last. -/
structure Ledger (α : Type) where
  committed : Option (ContentRow α)
  /-- As the open transaction sees it. -/
  seen : Option (ContentRow α)

namespace Shelf

variable {α : Type} (shelf : Shelf α)

/-- Enters what is done with a database. -/
def enter (d : Database) (ledger : Ledger α) : Action → Ledger α
  | .begin t =>
    match d.begin t with
    | .ok _ => { ledger with seen := ledger.committed }
    | .error _ => ledger
  | .ask h r => { ledger with seen := (shelf.put? r (answer h r d).1).or ledger.seen }
  | .commit t =>
    match (d.commit t).1 with
    | .ok _ => { ledger with committed := ledger.seen }
    | .error _ => ledger
  | .rollback _ => ledger

/-- The ledger after one thing after another was done. -/
def ledger (d : Database) (soFar : Ledger α) : List Action → Ledger α
  | [] => soFar
  | a :: rest => ledger (d.act a) (shelf.enter d soFar a) rest

/-- What is stored is what was put. -/
structure Tracked (d : Database) (ledger : Ledger α) : Prop where
  committed : shelf.stored? d.committed = ledger.committed.map (asText shelf.text)
  seen : ∀ t tx, d.current = some (t, tx) →
    shelf.stored? tx.rows = ledger.seen.map (asText shelf.text)

variable {shelf} {d : Database} {soFar : Ledger α}

theorem transaction?_eq_some_iff {t : TxId} {tx : Transaction} :
    d.transaction? t = some tx ↔ d.current = some (t, tx) := by
  simp [transaction?, Option.bind_eq_some_iff]

/-- Nothing that is done with a database gets past the ledger. -/
theorem Tracked.act (tracked : shelf.Tracked d soFar) (a : Action) :
    shelf.Tracked (d.act a) (shelf.enter d soFar a) := by
  cases a with
  | begin t =>
    cases opened : d.current with
    | none =>
      simp only [Database.act, enter, Database.begin, opened]
      refine ⟨tracked.committed, ?_⟩
      rintro u tx isOpen
      obtain ⟨rfl, rfl⟩ : t = u ∧ ⟨d.committed, 0⟩ = tx := by simpa using isOpen
      exact tracked.committed
    | some other =>
      simp only [Database.act, enter, Database.begin, opened]
      exact tracked
  | ask h r =>
    have refused : ∀ e, { soFar with seen := (shelf.put? r (.error e)).or soFar.seen } = soFar := by
      intro e
      rw [shelf.put?_error, Option.none_or]
    cases h with
    | direct =>
      simp only [Database.act, enter, answer, refused]
      exact tracked
    | transaction t =>
      cases isOpen : d.transaction? t with
      | none =>
        simp only [Database.act, enter, answer, isOpen, refused]
        exact tracked
      | some tx =>
        have before := tracked.seen t tx (transaction?_eq_some_iff.mp isOpen)
        simp only [Database.act, enter, answer, isOpen]
        refine ⟨tracked.committed, ?_⟩
        rintro u tx' now
        obtain ⟨rfl, rfl⟩ : t = u ∧ (Transaction.answer t r tx).2 = tx' := by simpa using now
        rw [shelf.stored?_answer, before, Option.map_or]
  | commit t =>
    cases isOpen : d.transaction? t with
    | none =>
      simp only [Database.act, enter, Database.commit, isOpen]
      exact tracked
    | some tx =>
      simp only [Database.act, enter, Database.commit, isOpen]
      exact ⟨tracked.seen t tx (transaction?_eq_some_iff.mp isOpen), nofun⟩
  | rollback t =>
    cases isOpen : d.transaction? t with
    | none =>
      simp only [Database.act, enter, Database.rollback, isOpen]
      exact tracked
    | some tx =>
      simp only [Database.act, enter, Database.rollback, isOpen]
      exact ⟨tracked.committed, nofun⟩

theorem Tracked.run (tracked : shelf.Tracked d soFar) (actions : List Action) :
    shelf.Tracked (d.run actions) (shelf.ledger d soFar actions) := by
  induction actions generalizing d soFar with
  | nil => exact tracked
  | cons a rest ih => exact ih (tracked.act a)

/-- Before anything is done. -/
theorem tracked_empty : shelf.Tracked .empty ⟨none, none⟩ := ⟨shelf.stored?_empty, nofun⟩

/-- What was put into a place during a run, as the answers told it. -/
def history (shelf : Shelf α) (actions : List Action) : Ledger α :=
  shelf.ledger .empty ⟨none, none⟩ actions

/-- A transaction finds the text of what was put. -/
theorem stored?_run {actions : List Action} {t : TxId} {tx : Transaction}
    (isOpen : (empty.run actions).transaction? t = some tx) :
    shelf.stored? tx.rows = (shelf.history actions).seen.map (asText shelf.text) :=
  (tracked_empty.run actions).seen t tx (transaction?_eq_some_iff.mp isOpen)

end Shelf

/-! ## Rule types and profiles -/

/-- Rule types change only where one is put, profiles only where one is added. -/
theorem Transaction.content_answer (t : TxId) (r : Request) (tx : Transaction) :
    ((∀ content, r ≠ .putRuleType content) →
      (answer t r tx).2.rows.ruleTypes = tx.rows.ruleTypes) ∧
    ((∀ content, r ≠ .addProfile content) →
      (answer t r tx).2.rows.profiles = tx.rows.profiles) := by
  cases r with
  | findSubscription project space name =>
    simp only [answer]
    split <;> exact ⟨fun _ => rfl, fun _ => rfl⟩
  | ensureBundle space name =>
    rw [answer_ensureBundle]
    split <;> exact ⟨fun _ => rfl, fun _ => rfl⟩
  | findRuleType project name | findProfile project name => exact ⟨fun _ => rfl, fun _ => rfl⟩
  | addSubscription project bundle version =>
    simp only [answer]
    split
    · next inserted =>
      obtain rfl := Sql.Table.eq_of_insert_eq_ok inserted
      exact ⟨fun _ => rfl, fun _ => rfl⟩
    · exact ⟨fun _ => rfl, fun _ => rfl⟩
  | putRuleType content =>
    refine ⟨fun other => absurd rfl (other content), fun _ => ?_⟩
    rw [answer_putRuleType]
    split
    · next put =>
      obtain ⟨-, -, rfl⟩ := Tables.putRuleType_eq_ok_iff.mp put
      rfl
    · rfl
  | addProfile content =>
    refine ⟨fun _ => ?_, fun other => absurd rfl (other content)⟩
    rw [answer_addProfile]
    split
    · next added =>
      obtain ⟨-, -, rfl⟩ := Tables.addProfile_eq_ok_iff.mp added
      rfl
    · rfl

namespace Shelf

variable (project : Uuid) (name : String)

/-- The place of a rule type. -/
def ruleType : Shelf RuleType where
  stored? rows := rows.ruleType? project name
  text := RuleType.toJson
  put?
    | .putRuleType _, .ok row => if row.isAt project name then some row else none
    | _, _ => none
  put?_error r e := by cases r <;> rfl
  stored?_empty := rfl
  stored?_answer t r tx := by
    cases r with
    | putRuleType content =>
      rw [Transaction.answer_putRuleType]
      split
      · next kept rows put =>
        obtain ⟨-, rfl, rfl⟩ := Tables.putRuleType_eq_ok_iff.mp put
        simp only [Transaction.after, Tables.ruleType?, Tables.find?_putRow, Tables.putRow_fst]
        simp only [ContentRow.isAt, NewContent.row, ContentRow.withDefinition]
        by_cases here : (content.project == project && content.definition.name == name) = true
        · simp only [here, if_true]
          rfl
        · simp only [here]
          rfl
      · rfl
    | _ => exact congrArg (List.find? _) ((Transaction.content_answer t _ tx).1 nofun)

/-- The place of a profile. -/
def profile : Shelf Profile where
  stored? rows := rows.profile? project name
  text := Profile.toJson
  put?
    | .addProfile _, .ok row => if row.isAt project name then some row else none
    | _, _ => none
  put?_error r e := by cases r <;> rfl
  stored?_empty := rfl
  stored?_answer t r tx := by
    cases r with
    | addProfile content =>
      rw [Transaction.answer_addProfile]
      split
      · next rows added =>
        obtain ⟨-, free, rfl⟩ := Tables.addProfile_eq_ok_iff.mp added
        simp only [Transaction.after, Tables.profile?, List.find?_append, List.find?_singleton]
        by_cases here : (content.project == project && content.definition.name == name) = true
        · have absent : tx.rows.profiles.find? (·.isAt project name) = none := by
            rw [List.find?_eq_none]
            intro old member there
            have place : (content.project, content.definition.name) = (project, name) := by
              simpa using here
            exact free (List.mem_map.mpr
              ⟨old, member, (ContentRow.isAt_iff.mp there).trans place.symm⟩)
          rw [absent]
          simp only [ContentRow.isAt, NewContent.row, ContentRow.withDefinition, here, if_true]
          rfl
        · simp only [ContentRow.isAt, NewContent.row, ContentRow.withDefinition, here]
          simp
      · rfl
    | _ => exact congrArg (List.find? _) ((Transaction.content_answer t _ tx).2 nofun)

end Shelf

/-! ## Finding again -/

section Found

variable {α : Type} {read : String → Except Json.Error α} {text : α → String} {row : ContentRow α}

/-- The answer for a row whose definition is read back, unless its text is malformed. -/
def rereadAs (row : ContentRow α) : Option α → Except Error (ContentRow α)
  | some definition => .ok (row.withDefinition definition)
  | none => .error (.backend (.unreadable (.fault .malformed)))

theorem found_asText (row : ContentRow α) {definition? : Option α}
    (reads : read (text row.definition) = Json.orMalformed definition?) :
    Transaction.found read (some (asText text row)) = rereadAs row definition? := by
  simp only [Transaction.found, asText, ContentRow.withDefinition, reads]
  cases definition? <;> rfl

theorem rereadAs_eq_ok_self_iff {definition? : Option α} :
    rereadAs row definition? = .ok row ↔ definition? = some row.definition := by
  cases definition? with
  | none => simp [rereadAs]
  | some definition =>
    obtain ⟨⟨project, provider, subscription, old⟩, id, name⟩ := row
    simp [rereadAs, ContentRow.withDefinition]

/-- What is found of a row that is stored as text, and when it is the row. -/
theorem found_stored {stored? : Option (ContentRow String)} {definition? : Option α} {kept : Prop}
    (stored : stored? = some (asText text row))
    (reads : read (text row.definition) = Json.orMalformed definition?)
    (again : definition? = some row.definition ↔ kept) :
    Transaction.found read stored? = rereadAs row definition? ∧
      (Transaction.found read stored? = .ok row ↔ kept) := by
  rw [stored, found_asText row reads, rereadAs_eq_ok_self_iff]
  exact ⟨rfl, again⟩

end Found

/-- A transaction finds the text of a rule type that it has just put. -/
theorem answer_findRuleType_put (content : NewContent RuleType)
    (byHand : content.subscription = none) :
    (answer (.transaction 0) (.findRuleType content.project content.definition.name) (empty.run
      [.begin 0, .ask (.transaction 0) (.putRuleType content)])).1 =
    Transaction.found RuleType.ofJson (some (asText RuleType.toJson
      (content.row (.issued (.transaction 0) 0) content.definition.name))) := by
  obtain ⟨project, provider, subscription, definition⟩ := content
  subst byHand
  have here : (ContentRow.isAt · project definition.name) (asText RuleType.toJson
      ((NewContent.mk project provider none definition).row (.issued (.transaction 0) 0)
        definition.name)) = true := ContentRow.isAt_iff.mpr rfl
  exact congrArg (Transaction.found RuleType.ofJson)
    ((Transaction.select_ruleTypes ..).trans (List.find?_cons_of_pos here))

/-- After every run, a transaction that looks for content that it sees finds what the text of its
definition is read back as. It finds content from a document as it was put, if and only if the
definitions in it are nested no deeper than a text may be, and made of numbers that texts give back
as they are. -/
theorem finds_put_iff (actions : List Action) (t : TxId) (project : Uuid) (name : String)
    (isOpen : ((empty.run actions).transaction? t).isSome = true) :
    (∀ row bytes, ((Shelf.ruleType project name).history actions).seen = some row →
      RuleType.ofYaml bytes = .ok row.definition →
      let answered := (answer (.transaction t) (.findRuleType project name) (empty.run actions)).1
      answered = rereadAs row row.definition.reread? ∧
        (answered = .ok row ↔ row.definition.Kept)) ∧
    (∀ row bytes, ((Shelf.profile project name).history actions).seen = some row →
      Profile.ofYaml bytes = .ok row.definition →
      let answered := (answer (.transaction t) (.findProfile project name) (empty.run actions)).1
      answered = rereadAs row row.definition.reread? ∧
        (answered = .ok row ↔ row.definition.Kept)) := by
  obtain ⟨tx, isOpen⟩ := Option.isSome_iff_exists.mp isOpen
  constructor
  · intro row bytes put decoded answered
    have ordinary := RuleType.ordinary_ofYaml decoded
    have stored : tx.rows.ruleType? project name = some (asText RuleType.toJson row) := by
      have found := (Shelf.ruleType project name).stored?_run isOpen
      rwa [put] at found
    simp only [answered, answer, isOpen, Transaction.answer, Transaction.select_ruleTypes]
    exact found_stored stored (RuleType.ofJson_toJson ordinary)
      (RuleType.reread?_eq_some_self_iff ordinary)
  · intro row bytes put decoded answered
    have ordinary := Profile.ordinary_ofYaml decoded
    have stored : tx.rows.profile? project name = some (asText Profile.toJson row) := by
      have found := (Shelf.profile project name).stored?_run isOpen
      rwa [put] at found
    simp only [answered, answer, isOpen, Transaction.answer, Transaction.select_profiles]
    exact found_stored stored (Profile.ofJson_toJson ordinary)
      (Profile.reread?_eq_some_self_iff ordinary)

/-- A rule type in a file, with items nested in each other. -/
def nestedYaml (levels : Nat) : ByteArray :=
  ("name: r\ndef:\n" ++ String.ofList (List.replicate levels ['-', ' ']).flatten).toUTF8

/-- Nothing, in lists nested in each other. -/
def nestedValue : Nat → Json.Value
  | 0 => .null
  | levels + 1 => .array [nestedValue levels]

/-- The rule type in the file, put by hand into a project. -/
def nestedContent (levels : Nat) : NewContent RuleType :=
  ⟨⟨1⟩, ⟨2⟩, none, { RuleType.named "r" with definition := nestedValue levels }⟩

/-- A rule type is put, committed and found by the next transaction. -/
theorem finds_put_nestedOnce :
    (answer (.transaction 1) (.findRuleType ⟨1⟩ "r") (empty.run
      [.begin 0, .ask (.transaction 0) (.putRuleType (nestedContent 1)), .commit 0, .begin 1])).1 =
    .ok ((nestedContent 1).row (.issued (.transaction 0) 0) "r") := by
  have decoded : (RuleType.ofYaml (nestedYaml 1)).toOption = some (nestedContent 1).definition := by
    decide +kernel
  have found := (finds_put_iff [.begin 0, .ask (.transaction 0) (.putRuleType (nestedContent 1)),
    .commit 0, .begin 1] 1 ⟨1⟩ "r" rfl).1 ((nestedContent 1).row (.issued (.transaction 0) 0) "r")
    (nestedYaml 1) rfl (eq_ok_of_toOption decoded)
  exact found.2.mpr ⟨by decide, trivial, trivial⟩

/-- A rule type is put whose definition is nested one level deeper than a text may be. It cannot be
found any more, not even by the transaction that has put it. -/
theorem put_not_found_again :
    RuleType.ofYaml (nestedYaml 127) = .ok (nestedContent 127).definition ∧
    (answer (.transaction 0) (.putRuleType (nestedContent 127)) (empty.run [.begin 0])).1 =
      .ok ((nestedContent 127).row (.issued (.transaction 0) 0) "r") ∧
    (answer (.transaction 0) (.findRuleType ⟨1⟩ "r") (empty.run
      [.begin 0, .ask (.transaction 0) (.putRuleType (nestedContent 127))])).1 =
      .error (.backend (.unreadable (.fault .malformed))) := by
  have decoded : (RuleType.ofYaml (nestedYaml 127)).toOption =
      some (nestedContent 127).definition := by
    decide +kernel
  have ordinary := RuleType.ordinary_ofYaml (eq_ok_of_toOption decoded)
  have lost : (nestedContent 127).definition.reread? = none := by decide +kernel
  have unreadable := RuleType.ofJson_toJson ordinary
  rw [lost] at unreadable
  refine ⟨eq_ok_of_toOption decoded, rfl, ?_⟩
  exact (answer_findRuleType_put (nestedContent 127) rfl).trans
    (found_asText ((nestedContent 127).row (.issued (.transaction 0) 0) "r") unreadable)

end Database

end RuleCatalog.Store
