import RuleCatalog.Proofs.Store.History

/-! # Runs of a store in memory

What can be done with a store in memory is beginning and ending transactions and asking it for
something, through itself or through a transaction. A run is any order of these. Asking makes one
write or none: `Transaction.Step` and `DirectStep` say which, and under which conditions.
-/

namespace RuleCatalog.Store.Memory

/-! ## Actions -/

/-- What can be done with a store. -/
inductive Action where
  | begin (t : TxId)
  | ask (h : Handle) (r : Request)
  | commit (t : TxId)
  /-- Also a transaction that is given up without a word ends like this. -/
  | rollback (t : TxId)

/-- The store after something was done, successfully or not. -/
def act (m : Memory) : Action → Memory
  | .begin t =>
    match m.begin t with
    | .ok opened => opened
    | .error _ => m
  | .ask h r => (answer h r m).2
  | .commit t => (m.commit t).2
  | .rollback t => m.rollback t

/-- The store after one thing after another was done. -/
def run (m : Memory) (actions : List Action) : Memory := actions.foldl act m

/-- What every action keeps holds after every run. -/
theorem run_induction {P : Memory → Prop} {m : Memory} (start : P m)
    (step : ∀ m a, P m → P (m.act a)) (actions : List Action) : P (m.run actions) := by
  induction actions generalizing m with
  | nil => exact start
  | cons a rest ih => exact ih (step m a start)

/-! ## Open transactions -/

section Lookup

variable {α : Type} {l : List (TxId × α)} {t u : TxId} {x y : α}

private theorem lookup_filter_self : (l.filter (·.1 != t)).lookup t = none :=
  List.lookup_eq_none_iff.mpr fun _ member =>
    bne_iff_ne.mpr (Ne.symm (bne_iff_ne.mp (List.mem_filter.mp member).2))

private theorem lookup_filter_ne (apart : u ≠ t) :
    (l.filter (·.1 != t)).lookup u = l.lookup u := by
  induction l with
  | nil => rfl
  | cons e rest ih =>
    obtain ⟨v, z⟩ := e
    by_cases here : v = t
    · subst here
      simpa [List.lookup_cons, beq_false_of_ne apart] using ih
    · simp [List.lookup_cons, here, ih]

private theorem lookup_update_self (found : l.lookup t = some x) :
    (l.map fun (v, old) => (v, if v = t then y else old)).lookup t = some y := by
  induction l with
  | nil => simp at found
  | cons e rest ih =>
    obtain ⟨v, z⟩ := e
    by_cases here : v = t
    · simp [here]
    · have elsewhere : (t == v) = false := beq_false_of_ne (Ne.symm here)
      simp only [List.lookup_cons, elsewhere] at found
      simpa [List.lookup_cons, elsewhere] using ih found

private theorem lookup_update_ne (apart : u ≠ t) :
    (l.map fun (v, old) => (v, if v = t then y else old)).lookup u = l.lookup u := by
  induction l with
  | nil => rfl
  | cons e rest ih =>
    obtain ⟨v, z⟩ := e
    by_cases here : v = t
    · subst here
      simpa [List.lookup_cons, beq_false_of_ne apart] using ih
    · simp [List.lookup_cons, here, ih]

private theorem perm_cons_filter (distinct : (l.map Prod.fst).Nodup)
    (found : l.lookup t = some x) : l.Perm ((t, x) :: l.filter (·.1 != t)) := by
  induction l with
  | nil => simp at found
  | cons e rest ih =>
    obtain ⟨v, z⟩ := e
    obtain ⟨absent, distinct⟩ := List.nodup_cons.mp distinct
    by_cases here : v = t
    · subst here
      have elsewhere : rest.filter (·.1 != v) = rest := List.filter_eq_self.mpr fun other member =>
        bne_iff_ne.mpr fun same => absent (List.mem_map.mpr ⟨other, member, same⟩)
      obtain rfl : z = x := by simpa using found
      simp [elsewhere]
    · have foundRest : rest.lookup t = some x := by
        simpa [List.lookup_cons, beq_false_of_ne (Ne.symm here)] using found
      have kept : ((v, z) :: rest).filter (·.1 != t) = (v, z) :: rest.filter (·.1 != t) := by
        simp [here]
      rw [kept]
      exact ((ih distinct foundRest).cons _).trans (.swap ..)

private theorem map_update_perm (distinct : (l.map Prod.fst).Nodup)
    (found : l.lookup t = some x) :
    (l.map fun (v, old) => (v, if v = t then y else old)).Perm
      ((t, y) :: l.filter (·.1 != t)) := by
  have kept : (l.filter (·.1 != t)).map (fun (v, old) => (v, if v = t then y else old)) =
      l.filter (·.1 != t) := by
    apply (List.map_congr_left _).trans (List.map_id _)
    intro e member
    have apart : e.1 ≠ t := bne_iff_ne.mp (List.mem_filter.mp member).2
    simp [apart]
  apply ((perm_cons_filter distinct found).map _).trans
  simp [kept]

end Lookup

variable {m m' : Memory} {t u : TxId} {tx tx' : Transaction}

theorem transaction?_without_self : (m.without t).transaction? t = none := lookup_filter_self

theorem transaction?_without_ne (apart : u ≠ t) :
    (m.without t).transaction? u = m.transaction? u := lookup_filter_ne apart

theorem transaction?_without_eq_some_iff :
    (m.without t).transaction? u = some tx ↔ u ≠ t ∧ m.transaction? u = some tx := by
  by_cases same : u = t
  · subst same
    simp [transaction?_without_self]
  · simp [transaction?_without_ne same, same]

theorem transaction?_withTransaction_self (isOpen : m.transaction? t = some tx) :
    (m.withTransaction t tx').transaction? t = some tx' := lookup_update_self isOpen

theorem transaction?_withTransaction_ne (apart : u ≠ t) :
    (m.withTransaction t tx').transaction? u = m.transaction? u := lookup_update_ne apart

theorem transactions_perm (numbers : (m.transactions.map Prod.fst).Nodup)
    (isOpen : m.transaction? t = some tx) :
    m.transactions.Perm ((t, tx) :: (m.without t).transactions) := perm_cons_filter numbers isOpen

theorem withTransaction_perm (numbers : (m.transactions.map Prod.fst).Nodup)
    (isOpen : m.transaction? t = some tx) :
    (m.withTransaction t tx').transactions.Perm ((t, tx') :: (m.without t).transactions) :=
  map_update_perm numbers isOpen

theorem mem_transactions_iff (numbers : (m.transactions.map Prod.fst).Nodup) :
    (t, tx) ∈ m.transactions ↔ m.transaction? t = some tx := by
  constructor
  · intro member
    obtain ⟨other, isOpen⟩ : ∃ other, m.transaction? t = some other :=
      Option.isSome_iff_exists.mp
        (List.lookup_isSome_iff.mpr ⟨(t, tx), member, beq_self_eq_true t⟩)
    have present := (transactions_perm numbers isOpen).mem_iff.mpr (List.mem_cons_self ..)
    obtain ⟨-, rfl⟩ := Prod.mk.inj (List.inj_on_of_nodup_map numbers present member rfl)
    exact isOpen
  · intro isOpen
    exact (transactions_perm numbers isOpen).mem_iff.mpr (List.mem_cons_self ..)

/-- A transaction that is as it was changes nothing. -/
theorem withTransaction_self (numbers : (m.transactions.map Prod.fst).Nodup)
    (isOpen : m.transaction? t = some tx) : m.withTransaction t tx = m := by
  have same : (m.withTransaction t tx).transactions = m.transactions := by
    apply (List.map_congr_left _).trans (List.map_id _)
    rintro ⟨u, old⟩ member
    by_cases here : u = t
    · subst here
      have found := (mem_transactions_iff numbers).mp member
      simp [Option.some_inj.mp (found.symm.trans isOpen)]
    · simp [here]
  change { m with transactions := (m.withTransaction t tx).transactions } = m
  rw [same]

theorem begin_eq_ok_iff : m.begin t = .ok m' ↔ t ∉ m.begun ∧ m' =
    { m with transactions := (t, .start m.committed) :: m.transactions, begun := t :: m.begun } := by
  rw [eq_comm (a := m')]
  by_cases used : t ∈ m.begun <;> simp [begin, used]

/-! ## Asking -/

/-- What asking a transaction does to it and to the reservations. -/
inductive Transaction.Step (t : TxId) (committed : Rows) :
    Transaction × Reservations → Transaction × Reservations → Prop
  | same {state} : Step t committed state state
  | bundle {tx reservations space name} (absent : tx.rows.bundle? space name = none) :
      Step t committed (tx, reservations)
        (tx.after (tx.rows.addBundle ⟨tx.nextId t, space, name⟩)
          (.bundle ⟨tx.nextId t, space, name⟩), reservations)
  | subscription {tx reservations project bundle version rows key}
      (keyed : keyOf tx.rows ⟨tx.nextId t, project, bundle, version⟩ = some key)
      (unreserved : reservations.heldByOther key t = false)
      (uncommitted : hasKey committed key = false)
      (added : tx.rows.addSubscription schema ⟨tx.nextId t, project, bundle, version⟩ = .ok rows) :
      Step t committed (tx, reservations)
        (tx.after rows (.subscription ⟨tx.nextId t, project, bundle, version⟩),
          reservations.reserve key t)
  | ruleType {tx reservations rows} {content : NewContent RuleType} {kept : ContentRow RuleType}
      (put : tx.rows.putRuleType schema (content.row (tx.nextId t) content.definition.name) =
        .ok (kept, rows)) :
      Step t committed (tx, reservations) (tx.after rows (.ruleType kept), reservations)
  | profile {tx reservations rows} {content : NewContent Profile}
      (added : tx.rows.addProfile schema (content.row (tx.nextId t) content.definition.name) =
        .ok rows) :
      Step t committed (tx, reservations)
        (tx.after rows (.profile (content.row (tx.nextId t) content.definition.name)), reservations)

/-- A subscription is refused, or it is added with its key reserved. -/
theorem Transaction.addSubscription_cases (t : TxId) (committed : Rows) (row : Subscription)
    (tx : Transaction) (reservations : Reservations) :
    (∃ e, addSubscription t committed row (tx, reservations) = (.error e, tx, reservations)) ∨
      ∃ key rows, keyOf tx.rows row = some key ∧ reservations.heldByOther key t = false ∧
        hasKey committed key = false ∧ tx.rows.addSubscription schema row = .ok rows ∧
        addSubscription t committed row (tx, reservations) =
          (.ok row, tx.after rows (.subscription row), reservations.reserve key t) := by
  cases keyed : keyOf tx.rows row with
  | none =>
    -- a subscription without a key is to a bundle that is unknown
    cases added : tx.rows.addSubscription schema row with
    | error e => exact .inl ⟨e, by simp only [addSubscription, keyed, added]⟩
    | ok rows =>
      obtain ⟨known, -⟩ := Tables.addSubscription_eq_ok_iff.mp added
      obtain ⟨key, found⟩ := keyOf_isSome known
      exact (Option.some_ne_none key (found.symm.trans keyed)).elim
  | some key =>
    by_cases taken : (reservations.heldByOther key t || hasKey committed key) = true
    · exact .inl ⟨subscriptionConflict, by simp only [addSubscription, keyed, if_pos taken]⟩
    · cases added : tx.rows.addSubscription schema row with
      | error e => exact .inl ⟨e, by simp only [addSubscription, keyed, if_neg taken, added]⟩
      | ok rows =>
        obtain ⟨unreserved, uncommitted⟩ := Bool.or_eq_false_iff.mp (Bool.eq_false_iff.mpr taken)
        exact .inr ⟨key, rows, rfl, unreserved, uncommitted, rfl,
          by simp only [addSubscription, keyed, if_neg taken, added]⟩

theorem Transaction.answer_step {committed : Rows} (r : Request)
    (state : Transaction × Reservations) :
    Step t committed state (answer t committed r state).2 := by
  obtain ⟨tx, reservations⟩ := state
  cases r with
  | findSubscription | findRuleType | findProfile => exact .same
  | ensureBundle space name =>
    cases found : tx.rows.bundle? space name with
    | none => simpa only [answer, found] using Step.bundle found
    | some row => simpa only [answer, found] using Step.same
  | addSubscription project bundle version =>
    change Step t committed (tx, reservations)
      (addSubscription t committed ⟨tx.nextId t, project, bundle, version⟩ (tx, reservations)).2
    rcases addSubscription_cases t committed ⟨tx.nextId t, project, bundle, version⟩ tx reservations
      with ⟨e, refused⟩ | ⟨key, rows, keyed, unreserved, uncommitted, added, answered⟩
    · exact refused ▸ .same
    · exact answered ▸ .subscription keyed unreserved uncommitted added
  | putRuleType content =>
    cases put : tx.rows.putRuleType schema
        (content.row (tx.nextId t) content.definition.name) with
    | error e => simpa only [answer, put] using Step.same
    | ok result => simpa only [answer, put] using Step.ruleType put
  | addProfile content =>
    cases added : tx.rows.addProfile schema
        (content.row (tx.nextId t) content.definition.name) with
    | error e => simpa only [answer, added] using Step.same
    | ok rows => simpa only [answer, added] using Step.profile added

theorem Transaction.Step.history {committed s : Rows} {reservations reservations' : Reservations}
    (step : Step t committed (tx, reservations) (tx', reservations')) (history : History t s tx) :
    History t s tx' := by
  cases step with
  | same => exact history
  | bundle absent => exact .bundle history absent
  | subscription _ _ _ added => exact .subscription history added
  | ruleType put => exact .ruleType history put
  | profile added => exact .profile history added

/-- What asking a store through itself does to it. -/
inductive DirectStep (m : Memory) : Memory → Prop
  | same : DirectStep m m
  | bundle {space name} (absent : m.committed.bundle? space name = none) :
      DirectStep m (m.after (m.committed.addBundle ⟨m.nextId, space, name⟩))
  | subscription {project bundle version rows}
      (unreserved : (keyOf m.committed ⟨m.nextId, project, bundle, version⟩).any
        m.reservations.held = false)
      (added : m.committed.addSubscription schema ⟨m.nextId, project, bundle, version⟩ =
        .ok rows) :
      DirectStep m (m.after rows)
  | ruleType {rows} {content : NewContent RuleType} {kept : ContentRow RuleType}
      (put : m.committed.putRuleType schema (content.row m.nextId content.definition.name) =
        .ok (kept, rows)) :
      DirectStep m (m.after rows)
  | profile {rows} {content : NewContent Profile}
      (added : m.committed.addProfile schema (content.row m.nextId content.definition.name) =
        .ok rows) :
      DirectStep m (m.after rows)

theorem answerDirect_step (r : Request) (m : Memory) : DirectStep m (answerDirect r m).2 := by
  cases r with
  | findSubscription | findRuleType | findProfile => exact .same
  | ensureBundle space name =>
    cases found : m.committed.bundle? space name with
    | none => simpa only [answerDirect, found] using DirectStep.bundle found
    | some row => simpa only [answerDirect, found] using DirectStep.same
  | addSubscription project bundle version =>
    by_cases taken : (keyOf m.committed ⟨m.nextId, project, bundle, version⟩).any
        m.reservations.held = true
    · simpa [answerDirect, addSubscription, taken] using DirectStep.same
    · cases added : m.committed.addSubscription schema ⟨m.nextId, project, bundle, version⟩ with
      | error e => simpa [answerDirect, addSubscription, taken, added] using DirectStep.same
      | ok rows =>
        simpa [answerDirect, addSubscription, taken, added] using
          DirectStep.subscription (Bool.eq_false_iff.mpr taken) added
  | putRuleType content =>
    cases put : m.committed.putRuleType schema (content.row m.nextId content.definition.name) with
    | error e => simpa only [answerDirect, put] using DirectStep.same
    | ok result => simpa only [answerDirect, put] using DirectStep.ruleType put
  | addProfile content =>
    cases added : m.committed.addProfile schema (content.row m.nextId content.definition.name) with
    | error e => simpa only [answerDirect, added] using DirectStep.same
    | ok rows => simpa only [answerDirect, added] using DirectStep.profile added

namespace DirectStep

theorem keeps (step : DirectStep m m') : m.committed.Keeps m'.committed := by
  cases step with
  | same => exact .refl _
  | bundle => exact .addBundle ..
  | subscription _ added => exact .addSubscription added
  | ruleType put => exact .putRuleType put
  | profile added => exact .addProfile added

theorem transactions (step : DirectStep m m') : m'.transactions = m.transactions := by
  cases step <;> rfl

theorem begun (step : DirectStep m m') : m'.begun = m.begun := by
  cases step <;> rfl

end DirectStep

end RuleCatalog.Store.Memory
