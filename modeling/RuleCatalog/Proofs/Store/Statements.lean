import RuleCatalog.Proofs.Store.Integrity
import RuleCatalog.Store.Database

/-! # What statements do

The statements of a database change its rows just as tables are changed, and select what is looked
up there. So a database has a schema: of two broken rules the second row is told, since missing rows
are only looked for at the end of a statement. For subscriptions and the bundles that they are
joined with, this takes rows that keep the rules.
-/

namespace RuleCatalog.Store

/-! ## Statements on any tables -/

namespace Sql

section Cell

variable {s s' : String} {p p' : Uuid} {id id' : RowId}

@[simp] theorem text_beq_text : (Cell.text s == Cell.text s') = (s == s') := by
  rw [Bool.eq_iff_iff, beq_iff_eq, beq_iff_eq, Cell.text.injEq]

@[simp] theorem uuid_beq_uuid : (Cell.uuid p == Cell.uuid p') = (p == p') := by
  rw [Bool.eq_iff_iff, beq_iff_eq, beq_iff_eq, Cell.uuid.injEq]

@[simp] theorem row_beq_row : (Cell.row id == Cell.row id') = (id == id') := by
  rw [Bool.eq_iff_iff, beq_iff_eq, beq_iff_eq, Cell.row.injEq]

end Cell

variable {δ α β : Type}

theorem updateFirst_eq_self {p : α → Bool} {f : α → α} {rows : List α}
    (same : ∀ row, p row = true → f row = row) : updateFirst p f rows = rows := by
  induction rows with
  | nil => rfl
  | cons row rest ih =>
    rw [updateFirst, ih]
    split
    · next here => rw [same row here]
    · rfl

/-! ### Changes -/

/-- A row that is inserted stands behind all others, and nothing else changes. -/
theorem Table.eq_of_insert_eq_ok {table : Table δ α} {row : α} {db db' : δ}
    (inserted : table.insert row db = .ok db') :
    db' = table.withRows db (table.rows db ++ [row]) := by
  rw [insert] at inserted
  split at inserted
  · cases inserted
  · rw [finish] at inserted
    split at inserted <;> cases inserted
    rfl

section Upsert

variable {table : Table δ α} {set : α → α → α} {row old : α} {db : δ}

theorem Table.upsert_of_absent (absent : (table.rows db).find? (table.conflict · row) = none) :
    table.upsert set row db =
      (table.finish db row (table.rows db ++ [row])).map (row, ·) := by
  have free : ((table.rows db).any (table.conflict · row)) = false := by
    rw [← List.isSome_find?, absent]
    rfl
  rw [upsert, absent, insert, free]
  rfl

theorem Table.upsert_of_present
    (present : (table.rows db).find? (table.conflict · row) = some old) :
    table.upsert set row db = (table.finish db (set old row)
      (updateFirst (table.conflict · row) (set · row) (table.rows db))).map (set old row, ·) := by
  rw [upsert, present]

end Upsert

/-! ### Joins -/

theorem mem_join {on : α → β → Bool} {rows : List α} {others : List β} {row : α} {other : β} :
    (row, other) ∈ join on rows others ↔ row ∈ rows ∧ other ∈ others ∧ on row other = true := by
  simp [join]

end Sql

namespace Database

variable {rows rows' : Rows} {t : TxId} {tx : Transaction}

/-! ## Declarations -/

/-- How broken rules are told. -/
def schema : Schema where
  missingBundle := "FOREIGN KEY constraint failed"
  secondSubscription :=
    "UNIQUE constraint failed: subscriptions.project_id, subscriptions.bundle_id"
  missingSubscription _ := "FOREIGN KEY constraint failed"
  secondProfile := "UNIQUE constraint failed: profiles.project_id, profiles.name"
  missingFirst := false

theorem subscriptions_notUnique : subscriptions.notUnique = .unique schema.secondSubscription := by
  cbv

theorem profiles_notUnique : profiles.notUnique = .unique schema.secondProfile := by
  cbv

theorem bundles_conflict (a b : BundleRow) :
    bundles.conflict a b = (a.space == b.space && a.name == b.name) := by
  simp [Sql.Table.conflict, bundles]

theorem subscriptions_conflict (a b : Subscription) :
    subscriptions.conflict a b = (a.project == b.project && a.bundle == b.bundle) := by
  simp [Sql.Table.conflict, subscriptions]

theorem subscriptions_linked (row : Subscription) :
    subscriptions.linked rows row = rows.hasBundle row.bundle := by
  rw [Bool.eq_iff_iff, Tables.hasBundle_iff]
  simp [Sql.Table.linked, subscriptions]

section Content

variable {name : String} {get : Rows → List (ContentRow String)}
  {set : Rows → List (ContentRow String) → Rows}

theorem content_conflict (a b : ContentRow String) :
    (content name get set).conflict a b = a.isAt b.project b.name := by
  simp [Sql.Table.conflict, content, ContentRow.isAt]

theorem content_linked (row : ContentRow String) :
    (content name get set).linked rows row = rows.linked row.subscription := by
  rw [Bool.eq_iff_iff, Tables.linked_iff]
  simp only [Sql.Table.linked, content, List.all_cons, List.all_nil, Bool.and_true]
  cases row.subscription <;> simp

theorem content_finish {row : ContentRow String} {written : List (ContentRow String)}
    (same : (set rows written).subscriptions = rows.subscriptions) :
    (content name get set).finish rows row written =
      if rows.linked row.subscription then .ok (set rows written)
      else .error (.foreignKey "FOREIGN KEY constraint failed") := by
  have known : (set rows written).hasSubscription = rows.hasSubscription := by
    funext id
    rw [Tables.hasSubscription, Tables.hasSubscription, same]
  rw [Sql.Table.finish, content_linked, Tables.linked, Tables.linked, ← known]
  rfl

end Content

/-! ## Bundles -/

/-- A bundle that is there already stays as it is. -/
theorem Transaction.answer_ensureBundle (space name : String) :
    answer t (.ensureBundle space name) tx =
      match tx.rows.bundle? space name with
      | some row => (.ok row, tx)
      | none => (.ok ⟨tx.nextId t, space, name⟩,
        tx.after (tx.rows.addBundle ⟨tx.nextId t, space, name⟩)) := by
  let row : BundleRow := ⟨tx.nextId t, space, name⟩
  have looked : (bundles.rows tx.rows).find? (bundles.conflict · row) =
      tx.rows.bundle? space name := by
    simp only [bundles_conflict]
    rfl
  have finished (kept : BundleRow) (rows : List BundleRow) :
      bundles.finish tx.rows kept rows = .ok { tx.rows with bundles := rows } := rfl
  cases found : tx.rows.bundle? space name with
  | none =>
    simp only [answer]
    rw [Sql.Table.upsert_of_absent (looked.trans found), finished]
    simp [Except.map, afterBundle, after, bundles, Tables.addBundle, row]
  | some old =>
    have named : old.space = space ∧ old.name = name := by
      simpa using List.find?_some found
    have same : Sql.updateFirst (bundles.conflict · row)
        (fun old => { old with space := row.space }) (bundles.rows tx.rows) = tx.rows.bundles := by
      apply Sql.updateFirst_eq_self
      intro other here
      simp only [bundles_conflict, Bool.and_eq_true, beq_iff_eq] at here
      rw [← here.1]
    simp only [answer]
    rw [Sql.Table.upsert_of_present (looked.trans found), finished, same]
    simp [Except.map, afterBundle]
    rw [← named.1, ← named.2]

/-! ## Subscriptions -/

/-- The join selects the subscription that is looked up in two steps. -/
theorem Transaction.answer_findSubscription (intact : tx.rows.Intact) (project : Uuid)
    (space name : String) :
    answer t (.findSubscription project space name) tx =
      match tx.rows.subscription? project space name with
      | some row => (.ok row, tx)
      | none => (.error .notFound, tx) := by
  simp only [answer]
  generalize selected : (Sql.join (fun (s : Subscription) (b : BundleRow) => b.id == s.bundle)
    tx.rows.subscriptions tx.rows.bundles).filter (fun row =>
      row.2.space == space && row.2.name == name && row.1.project == project) = rows
  have mem_iff (s : Subscription) (b : BundleRow) : (s, b) ∈ rows ↔
      s ∈ tx.rows.subscriptions ∧ b ∈ tx.rows.bundles ∧ b.id = s.bundle ∧
        b.names = (space, name) ∧ s.project = project := by
    simp [← selected, Sql.mem_join, BundleRow.names, and_assoc]
  cases rows with
  | nil =>
    have absent : tx.rows.subscription? project space name = none := by
      rw [Option.eq_none_iff_forall_ne_some]
      intro s found
      obtain ⟨member, own, b, known, same, names⟩ := Tables.subscription?_eq_some found
      exact List.not_mem_nil ((mem_iff s b).mpr ⟨member, known, same, names, own⟩)
    rw [absent]
    rfl
  | cons row rest =>
    obtain ⟨member, known, same, names, own⟩ :=
      (mem_iff row.1 row.2).mp (List.mem_cons_self ..)
    rw [intact.subscription?_eq_some_iff.mpr ⟨member, own, row.2, known, same, names⟩]
    rfl

/-- If there is a bundle to every subscription, a subscription cannot break both rules. -/
theorem insert_subscriptions (bundled : ∀ s ∈ rows.subscriptions, rows.hasBundle s.bundle = true)
    (row : Subscription) :
    subscriptions.insert row rows = rows.addSubscription schema row := by
  have finished (added : List Subscription) : subscriptions.finish rows row added =
      if rows.hasBundle row.bundle then .ok { rows with subscriptions := added }
      else .error (.foreignKey schema.missingBundle) := by
    rw [Sql.Table.finish, subscriptions_linked]
    rfl
  simp only [Sql.Table.insert, finished, subscriptions_conflict, subscriptions_notUnique,
    Tables.addSubscription]
  change (if (rows.subscriptions.any fun s => s.project == row.project && s.bundle == row.bundle)
    then _ else _) = _
  by_cases known : rows.hasBundle row.bundle = true
  · simp [known]
    rfl
  · have free : (rows.subscriptions.any fun s =>
        s.project == row.project && s.bundle == row.bundle) = false := by
      rw [List.any_eq_false]
      intro s member same
      simp only [Bool.and_eq_true, beq_iff_eq] at same
      exact known (same.2 ▸ bundled s member)
    simp [known, free]

theorem Transaction.answer_addSubscription (intact : tx.rows.Intact) (project : Uuid)
    (bundle : RowId) (version : String) :
    answer t (.addSubscription project bundle version) tx =
      match tx.rows.addSubscription schema ⟨tx.nextId t, project, bundle, version⟩ with
      | .ok rows => (.ok ⟨tx.nextId t, project, bundle, version⟩, tx.after rows)
      | .error e => (.error e, tx) := by
  simp only [answer, insert_subscriptions intact.subscriptionBundles]
  rfl

/-! ## Content -/

theorem Transaction.select_ruleTypes (project : Uuid) (name : String) :
    tx.select ruleTypes project name = tx.rows.ruleType? project name :=
  List.head?_filter

theorem Transaction.select_profiles (project : Uuid) (name : String) :
    tx.select profiles project name = tx.rows.profile? project name :=
  List.head?_filter

theorem updateFirst_eq_putRow {set : ContentRow String → ContentRow String}
    {row old : ContentRow String} {rows : List (ContentRow String)}
    (sets : ∀ old, old.isAt row.project row.name = true → set old = { row with id := old.id })
    (present : rows.find? (·.isAt row.project row.name) = some old) :
    (set old, Sql.updateFirst (·.isAt row.project row.name) set rows) = Tables.putRow row rows := by
  induction rows with
  | nil => cases present
  | cons first rest ih =>
    by_cases here : first.isAt row.project row.name = true
    · obtain rfl : first = old := by simpa [here] using present
      simp [Sql.updateFirst, Tables.putRow, here, sets first here]
    · have later : rest.find? (·.isAt row.project row.name) = some old := by
        simpa [here] using present
      simp [Sql.updateFirst, Tables.putRow, here, ← ih later]

theorem upsert_ruleTypes {set : ContentRow String → ContentRow String → ContentRow String}
    {row : ContentRow String}
    (sets : ∀ old, old.isAt row.project row.name = true → set old row = { row with id := old.id }) :
    ruleTypes.upsert set row rows = rows.putRuleType schema row := by
  have looked : (ruleTypes.rows rows).find? (ruleTypes.conflict · row) =
      rows.ruleTypes.find? (·.isAt row.project row.name) := by
    simp only [ruleTypes, content_conflict]
    rfl
  cases found : rows.ruleTypes.find? (·.isAt row.project row.name) with
  | none =>
    rw [Sql.Table.upsert_of_absent (looked.trans found), ruleTypes, content_finish rfl,
      Tables.putRuleType, Tables.putRow_of_absent found]
    cases rows.linked row.subscription <;> rfl
  | some old =>
    have here : old.isAt row.project row.name = true :=
      List.find?_some (p := fun r : ContentRow String => r.isAt row.project row.name) found
    rw [Sql.Table.upsert_of_present (looked.trans found), ruleTypes, content_finish rfl,
      Tables.putRuleType, ← updateFirst_eq_putRow sets found, sets old here]
    simp only [content_conflict]
    cases rows.linked row.subscription <;> rfl

theorem Transaction.answer_putRuleType (content : NewContent RuleType) :
    answer t (.putRuleType content) tx =
      match tx.rows.putRuleType schema ((content.row (tx.nextId t)
        content.definition.name).withDefinition content.definition.toJson) with
      | .ok (kept, rows) => (.ok (kept.withDefinition content.definition), tx.after rows)
      | .error e => (.error e, tx) := by
  simp only [answer]
  rw [upsert_ruleTypes]
  · cases put : tx.rows.putRuleType schema ((content.row (tx.nextId t)
      content.definition.name).withDefinition content.definition.toJson) with
    | error e => rfl
    | ok result =>
      obtain ⟨-, kept, -⟩ := Tables.putRuleType_eq_ok_iff.mp put
      rw [Tables.putRow_fst] at kept
      simp only [kept]
      rfl
  · intro old here
    obtain ⟨⟨project, provider, subscription, definition⟩, id, name⟩ := old
    obtain ⟨rfl, rfl⟩ : project = content.project ∧ name = content.definition.name :=
      Prod.mk.inj (ContentRow.isAt_iff.mp here)
    rfl

theorem insert_profiles (row : ContentRow String) :
    profiles.insert row rows = rows.addProfile schema row := by
  rw [Sql.Table.insert, profiles_notUnique, Tables.addProfile]
  simp only [profiles, content_conflict]
  rw [content_finish rfl]
  change (if (rows.profiles.any (·.isAt row.project row.name)) then _ else _) = _
  cases rows.linked row.subscription <;>
    cases rows.profiles.any (·.isAt row.project row.name) <;> rfl

theorem Transaction.answer_addProfile (content : NewContent Profile) :
    answer t (.addProfile content) tx =
      match tx.rows.addProfile schema ((content.row (tx.nextId t)
        content.definition.name).withDefinition content.definition.toJson) with
      | .ok rows => (.ok (content.row (tx.nextId t) content.definition.name), tx.after rows)
      | .error e => (.error e, tx) := by
  simp only [answer, insert_profiles]
  rfl

end Database

end RuleCatalog.Store
