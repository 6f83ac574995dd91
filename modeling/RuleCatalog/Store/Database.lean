import RuleCatalog.Content.Document
import RuleCatalog.FileTree
import RuleCatalog.Store.Sql
import RuleCatalog.Store.Tables

/-! # Databases

A store in a file, which has one open transaction at most. The transaction works on a copy of the
rows that takes their place when it is committed. Definitions are kept as text and are read again
whenever a row is looked up.
-/

namespace RuleCatalog.Store

namespace Database

/-- Rows with definitions as text. -/
abbrev Rows := Tables String String

/-! ## Tables -/

def bundles : Sql.Table Rows BundleRow where
  name := "bundles"
  rows db := db.bundles
  withRows db rows := { db with bundles := rows }
  unique := [⟨"namespace", fun b => .text b.space⟩, ⟨"name", fun b => .text b.name⟩]
  references := []

def subscriptions : Sql.Table Rows Subscription where
  name := "subscriptions"
  rows db := db.subscriptions
  withRows db rows := { db with subscriptions := rows }
  unique := [⟨"project_id", fun s => .uuid s.project⟩, ⟨"bundle_id", fun s => .row s.bundle⟩]
  references := [⟨fun s => some s.bundle, fun db => db.bundles.map (·.id)⟩]

/-- A table with content of projects. -/
def content (name : String) (rows : Rows → List (ContentRow String))
    (withRows : Rows → List (ContentRow String) → Rows) : Sql.Table Rows (ContentRow String) where
  name := name
  rows := rows
  withRows := withRows
  unique := [⟨"project_id", fun r => .uuid r.project⟩, ⟨"name", fun r => .text r.name⟩]
  references := [⟨fun r => r.subscription, fun db => db.subscriptions.map (·.id)⟩]

def ruleTypes : Sql.Table Rows (ContentRow String) :=
  content "rule_types" (·.ruleTypes) fun db rows => { db with ruleTypes := rows }

def profiles : Sql.Table Rows (ContentRow String) :=
  content "profiles" (·.profiles) fun db rows => { db with profiles := rows }

/-! ## Transactions -/

/-- An open transaction. -/
structure Transaction where
  rows : Rows
  /-- How many ids were issued. -/
  issued : Nat

namespace Transaction

/-- The id for the next row. -/
def nextId (tx : Transaction) (t : TxId) : RowId := .issued (.transaction t) tx.issued

/-- The transaction after a row was written. -/
def after (tx : Transaction) (rows : Rows) : Transaction := ⟨rows, tx.issued + 1⟩

/-- The transaction after a bundle was inserted or found. An id that no bundle has got is issued
again. -/
def afterBundle (tx : Transaction) (rows : Rows) : Transaction :=
  ⟨rows, tx.issued + (rows.bundles.length - tx.rows.bundles.length)⟩

/-- Selects the row of a name in a project. -/
def select (table : Sql.Table Rows (ContentRow String)) (project : Uuid) (name : String)
    (tx : Transaction) : Option (ContentRow String) :=
  ((table.rows tx.rows).filter fun row => row.project == project && row.name == name).head?

/-- The answer for a row that may be missing and whose definition has to be read. -/
def found {α : Type} (read : String → Except Json.Error α) :
    Option (ContentRow String) → Except Error (ContentRow α)
  | none => .error .notFound
  | some row =>
    match read row.definition with
    | .ok definition => .ok (row.withDefinition definition)
    | .error e => .error (.backend (.unreadable e))

/-- Answers a request by a statement. -/
def answer (t : TxId) : (r : Request) → Transaction → Except Error r.Answer × Transaction
  | .findSubscription project space name, tx =>
    let joined := Sql.join (fun s b => b.id == s.bundle) tx.rows.subscriptions tx.rows.bundles
    let selected := joined.filter fun row =>
      row.2.space == space && row.2.name == name && row.1.project == project
    match selected.head? with
    | some row => (.ok row.1, tx)
    | none => (.error .notFound, tx)
  | .ensureBundle space name, tx =>
    let row : BundleRow := ⟨tx.nextId t, space, name⟩
    match bundles.upsert (fun old new => { old with space := new.space }) row tx.rows with
    | .ok (kept, rows) => (.ok ⟨kept.id, space, name⟩, tx.afterBundle rows)
    | .error e => (.error e, tx)
  | .addSubscription project bundle version, tx =>
    let row : Subscription := ⟨tx.nextId t, project, bundle, version⟩
    match subscriptions.insert row tx.rows with
    | .ok rows => (.ok row, tx.after rows)
    | .error e => (.error e, tx)
  | .putRuleType content, tx =>
    let row := content.row (tx.nextId t) content.definition.name
    let set := fun old new : ContentRow String => { old with
      provider := new.provider, subscription := new.subscription, definition := new.definition }
    match ruleTypes.upsert set (row.withDefinition content.definition.toJson) tx.rows with
    | .ok (kept, rows) => (.ok { row with id := kept.id }, tx.after rows)
    | .error e => (.error e, tx)
  | .findRuleType project name, tx =>
    (found RuleType.ofJson (tx.select ruleTypes project name), tx)
  | .addProfile content, tx =>
    let row := content.row (tx.nextId t) content.definition.name
    match profiles.insert (row.withDefinition content.definition.toJson) tx.rows with
    | .ok rows => (.ok row, tx.after rows)
    | .error e => (.error e, tx)
  | .findProfile project name, tx =>
    (found Profile.ofJson (tx.select profiles project name), tx)

end Transaction

end Database

open Database in
/-- A database. -/
structure Database where
  committed : Rows
  /-- The open transaction with its number. -/
  current : Option (TxId × Transaction)

namespace Database

/-- A database without rows. -/
def empty : Database := ⟨.empty, none⟩

/-- How a transaction is refused while another one is open. -/
def locked : Error := .backend "database is locked"

/-- How a number is refused that belongs to no open transaction. -/
def noTransaction : Error := .backend "no such transaction"

/-- Opens a transaction under a number that no transaction had before. -/
def begin (d : Database) (t : TxId) : Except Error Database :=
  match d.current with
  | some _ => .error locked
  | none => .ok { d with current := some (t, ⟨d.committed, 0⟩) }

/-- The open transaction, if it has a given number. -/
def transaction? (d : Database) (t : TxId) : Option Transaction :=
  d.current.bind fun (u, tx) => if u = t then some tx else none

/-- Ends a transaction without its changes. -/
def rollback (d : Database) (t : TxId) : Database :=
  match d.transaction? t with
  | some _ => { d with current := none }
  | none => d

/-- Ends a transaction with its changes. -/
def commit (d : Database) (t : TxId) : Except Error Unit × Database :=
  match d.transaction? t with
  | some tx => (.ok (), ⟨tx.rows, none⟩)
  | none => (.error noTransaction, d)

/-- Answers a request through a transaction; there is no other way to use a database. -/
def answer : Handle → Handler Database
  | .direct => fun _ d => (.error noTransaction, d)
  | .transaction t => fun r d =>
    match d.transaction? t with
    | none => (.error noTransaction, d)
    | some tx =>
      let (answer, tx) := Transaction.answer t r tx
      (answer, { d with current := some (t, tx) })

/-! ## Files -/

/-- How the file of a database begins. -/
def fileStart : ByteArray := "SQLite format 3\x00".toUTF8

/-- Makes the file of a database. Detours of the path are not followed. There may be a file already,
but it must hold no more than one byte. -/
def makeFile (disk : Disk) (path : String) : Except Error Disk :=
  let cannotOpen : Error := .backend ("unable to open database file: " ++ path)
  let direct := Path.normalize path
  let start := (disk.write direct fileStart).mapError fun _ => cannotOpen
  match disk.read direct with
  | .ok content => if content.size ≤ 1 then start else .error (.backend "file is not a database")
  | .error .notFound => start
  | .error _ => .error cannotOpen

end Database

end RuleCatalog.Store
