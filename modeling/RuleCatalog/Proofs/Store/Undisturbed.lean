import Mathlib.Data.List.Induction
import RuleCatalog.Proofs.Store.Views

/-! # Replaying a log where it was written

A log that is replayed on the tables on which its transaction began gives the tables that the
transaction sees, row by row, and redirects nothing. So a transaction that nothing has disturbed
commits exactly what it has seen. `faithful_run` shows this for every transaction of every run,
whatever it was asked and whether or not that was granted.
-/

namespace RuleCatalog.Store

/-- A row that was put once is put again in the same place. -/
theorem Tables.putRow_putRow_fst {α : Type} (row : ContentRow α) (rows : List (ContentRow α)) :
    putRow (putRow row rows).1 rows = putRow row rows := by
  induction rows with
  | nil => rfl
  | cons other rest ih =>
    by_cases here : other.isAt row.project row.name = true
    · simp only [putRow, here, if_true]
    · have keptPlace : (putRow row rest).1.place = row.place := putRow_fst_place
      have elsewhere : other.isAt (putRow row rest).1.project (putRow row rest).1.name =
          other.isAt row.project row.name := by
        rw [Bool.eq_iff_iff, ContentRow.isAt_iff, ContentRow.isAt_iff]
        exact Eq.congr_right keptPlace
      simp only [putRow, here, if_false, Bool.false_eq_true, elsewhere, ih]

namespace Memory.Transaction.History

variable {t : TxId} {s : Rows} {tx : Transaction}

/-- The log gives the tables that the transaction sees. -/
theorem replayed_start (history : History t s tx) : replayed tx.log s = .ok (tx.rows, []) := by
  induction history with
  | start => rfl
  | bundle _ absent ih =>
    exact (replayed_concat ih).trans (replay_bundle_of_absent absent)
  | subscription _ added ih =>
    exact (replayed_concat ih).trans (replay_subscription added)
  | @ruleType tx content kept rows _ put ih =>
    apply (replayed_concat ih).trans
    obtain ⟨linked, rfl, rfl⟩ := Tables.putRuleType_eq_ok_iff.mp put
    have again := Tables.putRow_putRow_fst (content.row (tx.nextId t) content.definition.name)
      tx.rows.ruleTypes
    refine replay_ruleType (Tables.putRuleType_eq_ok_iff.mpr ⟨?_, rfl, ?_⟩)
    · rw [Tables.putRow_fst]
      exact linked
    · rw [again]
      rfl
  | profile _ added ih =>
    exact (replayed_concat ih).trans (replay_profile added)

/-- A transaction that nothing has disturbed commits what it has seen. -/
theorem commit_undisturbed {m : Memory} (history : History t m.committed tx)
    (isOpen : m.transaction? t = some tx) :
    m.commit t = (.ok (), { m.without t with committed := tx.rows }) := by
  simp only [Memory.commit, isOpen, replay_eq, history.replayed_start, Except.map]

end Memory.Transaction.History

namespace Memory

variable {m m' : Memory} {t : TxId} {tx : Transaction} {start : Rows} {a : Action}

/-! ## Transactions of a run -/

/-- When a transaction began, and on which tables. -/
def BeganOn (actions : List Action) (t : TxId) (start : Rows) : Prop :=
  ∃ before after, actions = before ++ .begin t :: after ∧ t ∉ (empty.run before).begun ∧
    (empty.run before).committed = start

theorem begun_commit (u : TxId) : (m.commit u).2.begun = m.begun := by
  unfold commit
  split
  · rfl
  · split <;> rfl

/-- A transaction that is open after a commit was open before. -/
theorem transaction?_of_commit {u : TxId} (isOpen : (m.commit u).2.transaction? t = some tx) :
    m.transaction? t = some tx := by
  unfold commit at isOpen
  split at isOpen
  · exact isOpen
  · split at isOpen <;> exact (transaction?_without_eq_some_iff.mp isOpen).2

/-- A number is used from when a transaction begins under it. -/
theorem begun_of_act (used : t ∈ (m.act a).begun) : t ∈ m.begun ∨ a = .begin t ∧ t ∉ m.begun := by
  cases a with
  | begin u =>
    cases opened : m.begin u with
    | error e =>
      simp only [act, opened] at used
      exact .inl used
    | ok m' =>
      obtain ⟨fresh, rfl⟩ := begin_eq_ok_iff.mp opened
      simp only [act, opened] at used
      rcases List.mem_cons.mp used with rfl | old
      · exact .inr ⟨rfl, fresh⟩
      · exact .inl old
  | ask h r =>
    change t ∈ (answer h r m).2.begun at used
    rw [begun_answer] at used
    exact .inl used
  | commit u => exact .inl (begun_commit u ▸ used)
  | rollback u => exact .inl used

theorem exists_began (actions : List Action) (used : t ∈ (empty.run actions).begun) :
    ∃ start, BeganOn actions t start := by
  induction actions using List.reverseRecOn with
  | nil => cases used
  | append_singleton actions a ih =>
    have ran : empty.run (actions ++ [a]) = (empty.run actions).act a := List.foldl_concat ..
    rw [ran] at used
    rcases begun_of_act used with earlier | ⟨rfl, fresh⟩
    · obtain ⟨start, before, after, rfl, fresh, isStart⟩ := ih earlier
      exact ⟨start, before, after ++ [a], by simp, fresh, isStart⟩
    · exact ⟨_, actions, [], rfl, fresh, rfl⟩

/-- Whatever is done, an open transaction has its history from where it began. -/
theorem history_act (used : t ∈ m.begun)
    (history : ∀ tx, m.transaction? t = some tx → Transaction.History t start tx)
    (isOpen : (m.act a).transaction? t = some tx) : Transaction.History t start tx := by
  cases a with
  | begin u =>
    cases opened : m.begin u with
    | error e =>
      simp only [act, opened] at isOpen
      exact history tx isOpen
    | ok m' =>
      obtain ⟨fresh, rfl⟩ := begin_eq_ok_iff.mp opened
      simp only [act, opened] at isOpen
      have apart : t ≠ u := fun same => fresh (same ▸ used)
      exact history tx
        (by simpa [transaction?, List.lookup_cons, beq_false_of_ne apart] using isOpen)
  | ask h r =>
    change (answer h r m).2.transaction? t = some tx at isOpen
    cases h with
    | direct =>
      have same := (answerDirect_step r m).transactions
      exact history tx ((congrArg (List.lookup t) same).symm.trans isOpen)
    | transaction u =>
      cases other : m.transaction? u with
      | none =>
        simp only [answer, other] at isOpen
        exact history tx isOpen
      | some tx' =>
        simp only [answer, other] at isOpen
        by_cases same : t = u
        · subst same
          obtain rfl := Option.some.inj <|
            (transaction?_withTransaction_self other).symm.trans isOpen
          exact (Transaction.answer_step r (tx', m.reservations)).history (history tx' other)
        · exact history tx ((transaction?_withTransaction_ne same).symm.trans isOpen)
  | commit u => exact history tx (transaction?_of_commit isOpen)
  | rollback u => exact history tx (transaction?_without_eq_some_iff.mp isOpen).2

theorem history_run (used : t ∈ m.begun)
    (history : ∀ tx, m.transaction? t = some tx → Transaction.History t start tx)
    (actions : List Action) (isOpen : (m.run actions).transaction? t = some tx) :
    Transaction.History t start tx := by
  suffices t ∈ (m.run actions).begun ∧
      ∀ tx, (m.run actions).transaction? t = some tx → Transaction.History t start tx from
    this.2 tx isOpen
  apply run_induction (P := fun m => t ∈ m.begun ∧
    ∀ tx, m.transaction? t = some tx → Transaction.History t start tx) ⟨used, history⟩
  rintro m a ⟨used, history⟩
  exact ⟨begun_act m a used, fun _ => history_act used history⟩

/-- An open transaction has its history from the tables on which it began. -/
theorem BeganOn.history {actions : List Action} (began : BeganOn actions t start)
    (isOpen : (empty.run actions).transaction? t = some tx) : Transaction.History t start tx := by
  obtain ⟨before, after, rfl, fresh, rfl⟩ := began
  have ran : empty.run (before ++ .begin t :: after) =
      ((empty.run before).act (.begin t)).run after := List.foldl_append ..
  rw [ran] at isOpen
  generalize empty.run before = m at fresh isOpen ⊢
  have opened := begin_eq_ok_iff.mpr ⟨fresh, rfl⟩
  simp only [act, opened] at isOpen
  refine history_run List.mem_cons_self (fun tx isOpen => ?_) after isOpen
  obtain rfl : Transaction.start m.committed = tx := by simpa [transaction?] using isOpen
  exact .start

/-! ## What is seen and what is committed -/

/-- A request that only looks. -/
inductive Looks : Request → Prop
  | subscription {project space name} : Looks (.findSubscription project space name)
  | ruleType {project name} : Looks (.findRuleType project name)
  | profile {project name} : Looks (.findProfile project name)

/-- The log of an open transaction says what the transaction sees. -/
structure Faithful (start : Rows) (m : Memory) (t : TxId) (tx : Transaction) : Prop where
  /-- Replayed where the transaction began, the log gives the tables that the transaction sees, and
  no reference is redirected. -/
  replayed : replayed tx.log start = .ok (tx.rows, [])
  /-- If nothing has been committed since, these tables are what a commit makes of the store. -/
  commit : m.committed = start → m.commit t = (.ok (), { m.without t with committed := tx.rows })
  /-- Whoever looks afterwards is told what the transaction would have been told. -/
  told : m.committed = start → ∀ r, Looks r →
    (answer .direct r (m.commit t).2).1 = (answer (.transaction t) r m).1

theorem answer_of_looks {r : Request} (looks : Looks r) (isOpen : m.transaction? t = some tx)
    (same : m'.committed = tx.rows) :
    (answer .direct r m').1 = (answer (.transaction t) r m).1 := by
  cases looks <;> simp only [answer, answerDirect, isOpen, Transaction.answer, same]

/-- Every open transaction began on some tables, and on these its log says what it sees. -/
theorem faithful_run (actions : List Action)
    (isOpen : (empty.run actions).transaction? t = some tx) :
    (∃ start, BeganOn actions t start) ∧
      ∀ start, BeganOn actions t start → Faithful start (empty.run actions) t tx := by
  refine ⟨exists_began actions ((sound_run actions).begun_of_open isOpen), fun start began => ?_⟩
  have history := began.history isOpen
  have undisturbed (same : (empty.run actions).committed = start) :
      (empty.run actions).commit t =
        (.ok (), { (empty.run actions).without t with committed := tx.rows }) := by
    rw [← same] at history
    exact history.commit_undisturbed isOpen
  refine ⟨history.replayed_start, undisturbed, fun same r looks => ?_⟩
  exact answer_of_looks looks isOpen (congrArg (·.2.committed) (undisturbed same))

/-- A transaction puts a rule type twice, adds a bundle that it has found missing and subscribes a
project to it twice. -/
private def repeating : List Action :=
  let ruleType (definition : Json.Value) : NewContent RuleType :=
    ⟨⟨1⟩, ⟨2⟩, none, { RuleType.named "r1" with definition := definition }⟩
  [.begin 0, .ask (.transaction 0) (.putRuleType (ruleType (.bool false))),
    .ask (.transaction 0) (.ensureBundle "s" "b"), .ask (.transaction 0) (.ensureBundle "s" "b"),
    .ask (.transaction 0) (.addSubscription ⟨1⟩ (.issued (.transaction 0) 1) "v1"),
    .ask (.transaction 0) (.addSubscription ⟨1⟩ (.issued (.transaction 0) 1) "v2"),
    .ask (.transaction 0) (.putRuleType (ruleType (.bool true)))]

theorem faithful_run_repeating : ∃ tx, (empty.run repeating).transaction? 0 = some tx ∧
    tx.log.length = 4 ∧ replayed tx.log .empty = .ok (tx.rows, []) ∧
    (empty.run repeating).commit 0 =
      (.ok (), { (empty.run repeating).without 0 with committed := tx.rows }) := by
  refine ⟨_, rfl, rfl, ?_⟩
  have began : BeganOn repeating 0 .empty := ⟨[], _, rfl, List.not_mem_nil, rfl⟩
  have faithful := (faithful_run (t := 0) repeating rfl).2 .empty began
  exact ⟨faithful.replayed, faithful.commit rfl⟩

end Memory

end RuleCatalog.Store
