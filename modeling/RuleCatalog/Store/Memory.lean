import RuleCatalog.Store.Tables

/-! # Stores in memory

A store that keeps its rows in memory and lets transactions overlap. A transaction works on its own
copy of the tables as they were when it began and keeps a log of what it changed. A commit replays
the log on the tables as they are by then, and changes all of them or nothing. Bundles that were
added by another transaction in the meantime keep their ids, and subscriptions that refer to the
transaction's own copies are redirected to them.

Subscriptions are also guarded between transactions: a transaction reserves the pair of project and
bundle when it adds a subscription, and until it ends no other handle can subscribe that pair.
-/

namespace RuleCatalog.Store.Memory

/-- Rows with definitions as they are. -/
abbrev Rows := Tables RuleType Profile

/-- How broken rules are told. -/
def schema : Schema where
  missingBundle := "subscriptions_bundle_id_fkey"
  secondSubscription := "subscriptions_project_id_bundle_id_key"
  missingSubscription
    | .ruleTypes => "rule_types_subscription_id_fkey"
    | .profiles => "profiles_subscription_id_fkey"
  secondProfile := "profiles_project_id_name_key"
  missingFirst := true

/-- How a subscription is refused that another handle has made first. -/
def subscriptionConflict : Error := .unique schema.secondSubscription

/-! ## Keys and reservations -/

/-- What identifies a subscription in all copies of the tables. -/
structure SubscriptionKey where
  project : Uuid
  space : String
  name : String
  deriving DecidableEq, Repr

/-- The key of a subscription, if its bundle is known. -/
def keyOf (rows : Rows) (s : Subscription) : Option SubscriptionKey :=
  (rows.bundles.find? (·.id == s.bundle)).map fun b => ⟨s.project, b.space, b.name⟩

/-- Whether there is a subscription with a key. -/
def hasKey (rows : Rows) (key : SubscriptionKey) : Bool :=
  (rows.subscription? key.project key.space key.name).isSome

/-- Which transaction has reserved which key. -/
abbrev Reservations := List (SubscriptionKey × TxId)

namespace Reservations

/-- Reserves a key for a transaction. -/
def reserve (r : Reservations) (key : SubscriptionKey) (t : TxId) : Reservations :=
  (key, t) :: r.filter (·.1 != key)

/-- Gives up what a transaction has reserved. -/
def release (r : Reservations) (t : TxId) : Reservations := r.filter (·.2 != t)

/-- Whether a key is reserved by another transaction. -/
def heldByOther (r : Reservations) (key : SubscriptionKey) (t : TxId) : Bool :=
  (r.lookup key).any (· != t)

/-- Whether a key is reserved. -/
def held (r : Reservations) (key : SubscriptionKey) : Bool := (r.lookup key).isSome

end Reservations

/-! ## Logs -/

/-- A row that a transaction has added or put. -/
inductive Write where
  | bundle (row : BundleRow)
  | subscription (row : Subscription)
  | ruleType (row : ContentRow RuleType)
  | profile (row : ContentRow Profile)

/-- Ids of bundles that had been added by others when a log was replayed. -/
abbrev Redirection := List (RowId × RowId)

/-- Where references to a bundle lead. -/
def Redirection.target (r : Redirection) (id : RowId) : RowId := (r.lookup id).getD id

/-- Replays one write. -/
def Write.replay (w : Write) (state : Rows × Redirection) : Except Error (Rows × Redirection) := do
  let (rows, redirection) := state
  match w with
  | .bundle row =>
    match rows.bundle? row.space row.name with
    | some there =>
      return (rows, if there.id = row.id then redirection else (row.id, there.id) :: redirection)
    | none => return (rows.addBundle row, redirection)
  | .subscription row =>
    let row := { row with bundle := redirection.target row.bundle }
    return (← rows.addSubscription schema row, redirection)
  | .ruleType row =>
    let (_, rows) ← rows.putRuleType schema row
    return (rows, redirection)
  | .profile row => return (← rows.addProfile schema row, redirection)

/-- Replays a log. -/
def replay (log : List Write) (rows : Rows) : Except Error Rows := do
  let (rows, _) ← log.foldlM (fun state w => w.replay state) (rows, [])
  return rows

/-! ## Transactions -/

/-- An open transaction. -/
structure Transaction where
  /-- The tables as the transaction sees them. -/
  rows : Rows
  log : List Write
  /-- How many ids were issued. -/
  issued : Nat

namespace Transaction

/-- A transaction that sees given tables. -/
def start (rows : Rows) : Transaction := ⟨rows, [], 0⟩

/-- The id for the next row. -/
def nextId (tx : Transaction) (t : TxId) : RowId := .issued (.transaction t) tx.issued

/-- The transaction after a write. -/
def after (tx : Transaction) (rows : Rows) (w : Write) : Transaction :=
  ⟨rows, tx.log ++ [w], tx.issued + 1⟩

/-- The answer for a row that may be missing. -/
def found {α : Type} : Option α → Except Error α
  | some row => .ok row
  | none => .error .notFound

/-- Adds a subscription. Its key must be free in the committed tables and not be reserved by another
transaction. -/
def addSubscription (t : TxId) (committed : Rows) (row : Subscription)
    (state : Transaction × Reservations) : Except Error Subscription × Transaction × Reservations :=
  let (tx, reservations) := state
  let add (reservations : Reservations) :=
    match tx.rows.addSubscription schema row with
    | .ok rows => (.ok row, tx.after rows (.subscription row), reservations)
    | .error e => (.error e, state)
  match keyOf tx.rows row with
  | some key =>
    if reservations.heldByOther key t || hasKey committed key then
      (.error subscriptionConflict, state)
    else add (reservations.reserve key t)
  | none => add reservations

/-- Answers a request to a transaction. -/
def answer (t : TxId) (committed : Rows) :
    (r : Request) → Transaction × Reservations → Except Error r.Answer × Transaction × Reservations
  | .findSubscription project space name, (tx, reservations) =>
    (found (tx.rows.subscription? project space name), tx, reservations)
  | .ensureBundle space name, (tx, reservations) =>
    match tx.rows.bundle? space name with
    | some row => (.ok row, tx, reservations)
    | none =>
      let row : BundleRow := ⟨tx.nextId t, space, name⟩
      (.ok row, tx.after (tx.rows.addBundle row) (.bundle row), reservations)
  | .addSubscription project bundle version, (tx, reservations) =>
    addSubscription t committed ⟨tx.nextId t, project, bundle, version⟩ (tx, reservations)
  | .putRuleType content, (tx, reservations) =>
    match tx.rows.putRuleType schema (content.row (tx.nextId t) content.definition.name) with
    | .ok (kept, rows) => (.ok kept, tx.after rows (.ruleType kept), reservations)
    | .error e => (.error e, tx, reservations)
  | .findRuleType project name, (tx, reservations) =>
    (found (tx.rows.ruleType? project name), tx, reservations)
  | .addProfile content, (tx, reservations) =>
    let row := content.row (tx.nextId t) content.definition.name
    match tx.rows.addProfile schema row with
    | .ok rows => (.ok row, tx.after rows (.profile row), reservations)
    | .error e => (.error e, tx, reservations)
  | .findProfile project name, (tx, reservations) =>
    (found (tx.rows.profile? project name), tx, reservations)

end Transaction

end Memory

open Memory in
/-- A store in memory. -/
structure Memory where
  committed : Rows
  /-- How many ids were issued through the store itself. -/
  issued : Nat
  transactions : List (TxId × Transaction)
  reservations : Reservations
  /-- The numbers of all transactions so far. -/
  begun : List TxId

namespace Memory

/-- A store without rows. -/
def empty : Memory := ⟨.empty, 0, [], [], []⟩

/-- The open transaction with a number. -/
def transaction? (m : Memory) (t : TxId) : Option Transaction := m.transactions.lookup t

/-- The store without an open transaction, whose reservations are given up. -/
def without (m : Memory) (t : TxId) : Memory :=
  { m with
    transactions := m.transactions.filter (·.1 != t)
    reservations := m.reservations.release t }

/-- The store with another state of an open transaction. -/
def withTransaction (m : Memory) (t : TxId) (tx : Transaction) : Memory :=
  { m with transactions := m.transactions.map fun (u, old) => (u, if u = t then tx else old) }

/-- How a number is refused that belongs to no open transaction, or belonged to one before. -/
def noTransaction : Error := .backend "no such transaction"
def numberInUse : Error := .backend "transaction number in use"

/-- Opens a transaction under a number that no transaction had before. -/
def begin (m : Memory) (t : TxId) : Except Error Memory :=
  if t ∈ m.begun then .error numberInUse
  else .ok { m with
    transactions := (t, .start m.committed) :: m.transactions
    begun := t :: m.begun }

/-- Ends a transaction without its changes. -/
def rollback (m : Memory) (t : TxId) : Memory := m.without t

/-- Ends a transaction with its changes, or without them if they break a rule by now. -/
def commit (m : Memory) (t : TxId) : Except Error Unit × Memory :=
  match m.transaction? t with
  | none => (.error noTransaction, m)
  | some tx =>
    match replay tx.log m.committed with
    | .ok rows => (.ok (), { m.without t with committed := rows })
    | .error e => (.error e, m.without t)

/-- The id for the next row that is added through the store itself. -/
def nextId (m : Memory) : RowId := .issued .direct m.issued

/-- The store after a change through the store itself. -/
def after (m : Memory) (rows : Rows) : Memory := { m with committed := rows, issued := m.issued + 1 }

/-- Adds a subscription through the store itself. Its key must not be reserved. -/
def addSubscription (m : Memory) (row : Subscription) : Except Error Subscription × Memory :=
  if (keyOf m.committed row).any m.reservations.held then (.error subscriptionConflict, m)
  else
    match m.committed.addSubscription schema row with
    | .ok rows => (.ok row, m.after rows)
    | .error e => (.error e, m)

/-- Answers a request through the store itself: every request is a transaction of its own. -/
def answerDirect : (r : Request) → Memory → Except Error r.Answer × Memory
  | .findSubscription project space name, m =>
    (Transaction.found (m.committed.subscription? project space name), m)
  | .ensureBundle space name, m =>
    match m.committed.bundle? space name with
    | some row => (.ok row, m)
    | none =>
      let row : BundleRow := ⟨m.nextId, space, name⟩
      (.ok row, m.after (m.committed.addBundle row))
  | .addSubscription project bundle version, m =>
    m.addSubscription ⟨m.nextId, project, bundle, version⟩
  | .putRuleType content, m =>
    match m.committed.putRuleType schema (content.row m.nextId content.definition.name) with
    | .ok (kept, rows) => (.ok kept, m.after rows)
    | .error e => (.error e, m)
  | .findRuleType project name, m => (Transaction.found (m.committed.ruleType? project name), m)
  | .addProfile content, m =>
    let row := content.row m.nextId content.definition.name
    match m.committed.addProfile schema row with
    | .ok rows => (.ok row, m.after rows)
    | .error e => (.error e, m)
  | .findProfile project name, m => (Transaction.found (m.committed.profile? project name), m)

/-- Answers a request through a handle. -/
def answer : Handle → Handler Memory
  | .direct => answerDirect
  | .transaction t => fun r m =>
    match m.transaction? t with
    | none => (.error noTransaction, m)
    | some tx =>
      let (answer, tx, reservations) := Transaction.answer t m.committed r (tx, m.reservations)
      (answer, { m.withTransaction t tx with reservations := reservations })

end Memory

end RuleCatalog.Store
