import RuleCatalog.Proofs.Store.Views

/-! # Transactions that come to nothing

A transaction that ends without being committed can be left out of a run altogether. All that it
does is kept with it until its end, but for its reservations, and nobody meets these unless another
subscription is refused for one of them. So every other step has the same result in the run without
the transaction, and the store is the same in the end.
-/

namespace RuleCatalog.Store.Memory

variable {m : Memory} {t u : TxId} {a : Action} {actions : List Action}

/-! ## Results -/

/-- The handle through which something is done. -/
def Action.handle : Action → Handle
  | .begin t => .transaction t
  | .ask h _ => h
  | .commit t => .transaction t
  | .rollback t => .transaction t

/-- What the caller is told. -/
abbrev Action.Result : Action → Type
  | .begin _ => Except Error Unit
  | .ask _ r => Except Error r.Answer
  | .commit _ => Except Error Unit
  | .rollback _ => Unit

/-- What the caller is told when something is done with a store. -/
def result (m : Memory) : (a : Action) → a.Result
  | .begin t => (m.begin t).map fun _ => ()
  | .ask h r => (answer h r m).1
  | .commit t => (m.commit t).1
  | .rollback _ => ()

/-- What is done in a run, with the results. -/
def results (m : Memory) : List Action → List ((a : Action) × a.Result)
  | [] => []
  | a :: rest => ⟨a, m.result a⟩ :: (m.act a).results rest

/-- Whether nothing of a kind is done in a run. -/
def never (kind : Memory → Action → Bool) (m : Memory) : List Action → Bool
  | [] => true
  | a :: rest => !kind m a && (m.act a).never kind rest

/-- Whether a transaction is committed successfully. -/
def commits (t : TxId) (m : Memory) : Action → Bool
  | .commit u => u == t && (m.commit t).1.isOk
  | _ => false

/-- Whether a subscription through another handle is refused since a transaction has reserved its
key. -/
def hinders (t : TxId) (m : Memory) : Action → Bool
  | .ask h (.addSubscription project bundle _) =>
    h != .transaction t && (m.view? h).any fun rows =>
      (rows.bundles.find? (·.id == bundle)).any fun b =>
        m.reservations.lookup ⟨project, b.space, b.name⟩ == some t
  | _ => false

/-- The store as it would be if a transaction had never begun. -/
def forget (t : TxId) (m : Memory) : Memory :=
  { m.without t with begun := m.begun.filter (· != t) }

/-! ## Reservations -/

namespace Reservations

variable {r : Reservations} {key : SubscriptionKey}

/-- What a transaction gives up was nobody else's. -/
theorem lookup_release (other : r.lookup key ≠ some t) :
    (r.release t).lookup key = r.lookup key := by
  induction r with
  | nil => rfl
  | cons e rest ih =>
    obtain ⟨first, v⟩ := e
    by_cases same : key = first
    · subst same
      have kept : v ≠ t := by simpa using other
      simp [release, kept]
    · have elsewhere : (key == first) = false := beq_false_of_ne same
      simp only [List.lookup_cons, elsewhere] at other ⊢
      rw [← ih other]
      by_cases gone : v = t
      · simp [release, gone]
      · simp [release, gone, List.lookup_cons, elsewhere]

theorem release_reserve_self (unreserved : r.heldByOther key t = false)
    (unique : ∀ u v, (key, u) ∈ r → (key, v) ∈ r → u = v) :
    (r.reserve key t).release t = r.release t := by
  have own : ∀ e ∈ r, e.1 = key → e.2 = t := by
    rintro ⟨_, u⟩ member rfl
    obtain ⟨v, found⟩ := exists_lookup member
    exact (unique _ _ member (mem_of_lookup found)).trans
      (eq_of_not_heldByOther unreserved found)
  simp only [release, reserve, bne_self_eq_false, Bool.false_eq_true, not_false_eq_true,
    List.filter_cons_of_neg, List.filter_filter]
  refine List.filter_congr fun e member => ?_
  by_cases here : e.1 = key
  · simp [here, own e member here]
  · simp [here]

theorem release_reserve_ne (apart : u ≠ t) :
    (r.reserve key u).release t = (r.release t).reserve key u := by
  simp [release, reserve, apart, List.filter_filter, Bool.and_comm]

end Reservations

/-! ## What is left of a store -/

@[simp] theorem forget_committed : (forget t m).committed = m.committed := rfl

@[simp] theorem forget_reservations : (forget t m).reservations = m.reservations.release t := rfl

theorem forget_transaction? (apart : u ≠ t) : (forget t m).transaction? u = m.transaction? u :=
  transaction?_without_ne apart

theorem forget_without_self : forget t (m.without t) = forget t m := by
  simp [forget, without, Reservations.release]

theorem forget_without (t u : TxId) : forget t (m.without u) = (forget t m).without u := by
  simp [forget, without, Reservations.release, List.filter_filter, Bool.and_comm]

theorem filter_update {α : Type} {y : α} (l : List (TxId × α)) :
    (l.map fun (v, old) => (v, if v = t then y else old)).filter (·.1 != t) =
      l.filter (·.1 != t) := by
  rw [List.filter_map]
  apply (List.map_congr_left _).trans (List.map_id _)
  intro e member
  have apart : e.1 ≠ t := bne_iff_ne.mp (List.mem_filter.mp member).2
  simp [apart]

theorem forget_withTransaction {tx : Transaction} :
    forget t (m.withTransaction u tx) = (forget t m).withTransaction u tx := by
  simp [forget, withTransaction, without, List.filter_map, Function.comp_def]

/-! ## Steps of the transaction -/

/-- Whatever a transaction reserves is given up when it ends. -/
theorem Transaction.Step.release {committed : Rows} {tx tx' : Transaction}
    {reservations reservations' : Reservations}
    (step : Step t committed (tx, reservations) (tx', reservations'))
    (unique : ∀ key u v, (key, u) ∈ reservations → (key, v) ∈ reservations → u = v) :
    reservations'.release t = reservations.release t := by
  cases step with
  | subscription _ unreserved => exact Reservations.release_reserve_self unreserved (unique _)
  | _ => rfl

/-- A step of a transaction leaves no trace outside of it, unless the transaction is committed. -/
theorem forget_act_own (sound : Sound m) (own : a.handle = .transaction t)
    (uncommitted : commits t m a = false) : forget t (m.act a) = forget t m := by
  cases a with
  | begin u =>
    cases own
    cases opened : m.begin t with
    | error e => simp only [act, opened]
    | ok m' =>
      obtain ⟨-, rfl⟩ := begin_eq_ok_iff.mp opened
      simp [act, opened, forget, without]
  | ask h r =>
    cases own
    cases isOpen : m.transaction? t with
    | none => simp only [act, answer, isOpen]
    | some tx =>
      have step : Transaction.Step t m.committed (tx, m.reservations)
          (Transaction.answer t m.committed r (tx, m.reservations)).2 :=
        Transaction.answer_step r (tx, m.reservations)
      have released := step.release fun key u v => sound.reserved_unique
      simp [act, answer, isOpen, forget, without, withTransaction, filter_update, released]
  | commit u =>
    cases own
    cases isOpen : m.transaction? t with
    | none => simp only [act, commit, isOpen]
    | some tx =>
      cases ended : replay tx.log m.committed with
      | ok rows => simp [commits, commit, isOpen, ended, Except.isOk, Except.toBool] at uncommitted
      | error e => simp only [act, commit, isOpen, ended, forget_without_self]
  | rollback u =>
    cases own
    exact forget_without_self

/-! ## Other steps -/

/-- A subscription that is not hindered is to a key that the transaction has not reserved. -/
theorem not_reserved_of_unhindered {h : Handle} {rows : Rows} {project : Uuid} {bundle id : RowId}
    {version : String} {key : SubscriptionKey}
    (unhindered : hinders t m (.ask h (.addSubscription project bundle version)) = false)
    (other : h ≠ .transaction t) (view : m.view? h = some rows)
    (keyed : keyOf rows ⟨id, project, bundle, version⟩ = some key) :
    m.reservations.lookup key ≠ some t := by
  obtain ⟨b, found, rfl⟩ := Option.map_eq_some_iff.mp keyed
  simpa [hinders, other, view, found] using unhindered

/-- Whoever is hindered is refused. -/
theorem result_of_hinders {h : Handle} {r : Request} (hindered : hinders t m (.ask h r) = true) :
    (answer h r m).1 = .error subscriptionConflict := by
  cases r with
  | addSubscription project bundle version =>
    simp only [hinders, Bool.and_eq_true, bne_iff_ne, Option.any_eq_true, beq_iff_eq] at hindered
    obtain ⟨other, rows, view, b, found, reserved⟩ := hindered
    have keyed : ∀ id, keyOf rows ⟨id, project, bundle, version⟩ =
        some ⟨project, b.space, b.name⟩ := fun id => by simp [keyOf, found]
    cases h with
    | direct =>
      cases view
      simp [answer, answerDirect, addSubscription, keyed, Reservations.held, reserved]
    | transaction u =>
      obtain ⟨tx, isOpen, rfl⟩ := Option.map_eq_some_iff.mp view
      have apart : t ≠ u := fun same => other (congrArg Handle.transaction same.symm)
      simp [answer, isOpen, Transaction.answer, Transaction.addSubscription, keyed,
        Reservations.heldByOther, reserved, apart]
  | _ => simp [hinders] at hindered

theorem answerDirect_forget {r : Request} (unhindered : hinders t m (.ask .direct r) = false) :
    answerDirect r (forget t m) = ((answerDirect r m).1, forget t (answerDirect r m).2) := by
  cases r with
  | findSubscription | findRuleType | findProfile => rfl
  | ensureBundle space name =>
    cases found : m.committed.bundle? space name with
    | none =>
      simp only [answerDirect, forget_committed, found]
      rfl
    | some row => simp only [answerDirect, forget_committed, found]
  | addSubscription project bundle version =>
    have sameHeld : (keyOf m.committed ⟨m.nextId, project, bundle, version⟩).any
          (m.reservations.release t).held =
        (keyOf m.committed ⟨m.nextId, project, bundle, version⟩).any m.reservations.held := by
      cases keyed : keyOf m.committed ⟨m.nextId, project, bundle, version⟩ with
      | none => rfl
      | some key =>
        have free := not_reserved_of_unhindered unhindered Handle.noConfusion rfl keyed
        exact congrArg Option.isSome (Reservations.lookup_release free)
    have sameId : (forget t m).nextId = m.nextId := rfl
    simp only [answerDirect, addSubscription, forget_committed, forget_reservations, sameId,
      sameHeld]
    split_ifs
    · rfl
    · cases m.committed.addSubscription schema ⟨m.nextId, project, bundle, version⟩ <;> rfl
  | putRuleType content =>
    have sameId : (forget t m).nextId = m.nextId := rfl
    simp only [answerDirect, forget_committed, sameId]
    cases m.committed.putRuleType schema (content.row m.nextId content.definition.name) <;> rfl
  | addProfile content =>
    have sameId : (forget t m).nextId = m.nextId := rfl
    simp only [answerDirect, forget_committed, sameId]
    cases m.committed.addProfile schema (content.row m.nextId content.definition.name) <;> rfl

/-- What another transaction is answered does not depend on reservations that do not hinder it. -/
theorem Transaction.answer_release (committed : Rows) {r : Request} {tx : Transaction}
    {reservations : Reservations} (apart : u ≠ t)
    (free : ∀ project bundle version key, r = .addSubscription project bundle version →
      keyOf tx.rows ⟨tx.nextId u, project, bundle, version⟩ = some key →
      reservations.lookup key ≠ some t) :
    let result := Transaction.answer u committed r (tx, reservations)
    Transaction.answer u committed r (tx, reservations.release t) =
      (result.1, result.2.1, result.2.2.release t) := by
  cases r with
  | findSubscription | findRuleType | findProfile => rfl
  | ensureBundle space name =>
    cases found : tx.rows.bundle? space name <;> simp only [answer, found]
  | addSubscription project bundle version =>
    have free := fun key => free project bundle version key rfl
    simp only [answer, addSubscription]
    generalize (⟨tx.nextId u, project, bundle, version⟩ : Subscription) = row at free ⊢
    cases keyed : keyOf tx.rows row with
    | none => cases tx.rows.addSubscription schema row <;> rfl
    | some key =>
      have sameHeld : (reservations.release t).heldByOther key u = reservations.heldByOther key u :=
        congrArg (Option.any (· != u)) (Reservations.lookup_release (free key keyed))
      simp only [sameHeld]
      split_ifs
      · rfl
      · cases tx.rows.addSubscription schema row <;>
          simp only [Reservations.release_reserve_ne apart]
  | putRuleType content =>
    simp only [answer]
    cases tx.rows.putRuleType schema (content.row (tx.nextId u) content.definition.name) <;> rfl
  | addProfile content =>
    simp only [answer]
    cases tx.rows.addProfile schema (content.row (tx.nextId u) content.definition.name) <;> rfl

theorem answer_forget {h : Handle} {r : Request} (other : h ≠ .transaction t)
    (unhindered : hinders t m (.ask h r) = false) :
    answer h r (forget t m) = ((answer h r m).1, forget t (answer h r m).2) := by
  cases h with
  | direct => exact answerDirect_forget unhindered
  | transaction u =>
    have apart : u ≠ t := fun same => other (congrArg Handle.transaction same)
    cases isOpen : m.transaction? u with
    | none => simp only [answer, forget_transaction? apart, isOpen]
    | some tx =>
      have view : m.view? (.transaction u) = some tx.rows := by simp [view?, isOpen]
      have free : ∀ project bundle version key, r = .addSubscription project bundle version →
          keyOf tx.rows ⟨tx.nextId u, project, bundle, version⟩ = some key →
          m.reservations.lookup key ≠ some t := fun project bundle version key same keyed =>
        not_reserved_of_unhindered (same ▸ unhindered) other view keyed
      have released := Transaction.answer_release m.committed apart free
      simp only [answer, forget_transaction? apart, isOpen, forget_committed, forget_reservations,
        released, ← forget_withTransaction]
      rfl

/-- A step of another handle does the same in a store that the transaction is taken out of. -/
theorem act_forget (other : a.handle ≠ .transaction t) (unhindered : hinders t m a = false) :
    (forget t m).result a = m.result a ∧ (forget t m).act a = forget t (m.act a) := by
  cases a with
  | begin u =>
    have apart : u ≠ t := fun same => other (congrArg Handle.transaction same)
    have sameNumbers : u ∈ (forget t m).begun ↔ u ∈ m.begun := by simp [forget, apart]
    by_cases used : u ∈ m.begun
    · simp [result, act, begin, used, sameNumbers]
    · simp [result, act, begin, used, Except.map, forget, without, apart]
  | ask h r =>
    have same : answer h r (forget t m) = ((answer h r m).1, forget t (answer h r m).2) :=
      answer_forget other unhindered
    simp only [result, act, same, and_self]
  | commit u =>
    have apart : u ≠ t := fun same => other (congrArg Handle.transaction same)
    cases isOpen : m.transaction? u with
    | none => simp [result, act, commit, forget_transaction? apart, isOpen]
    | some tx =>
      cases ended : replay tx.log m.committed with
      | error e =>
        simp [result, act, commit, forget_transaction? apart, isOpen, ended, forget_without]
      | ok rows =>
        have sameEnd : forget t { m.without u with committed := rows } =
            { (forget t m).without u with committed := rows } := by
          rw [← forget_without]
          rfl
        simp [result, act, commit, forget_transaction? apart, isOpen, ended, sameEnd]
  | rollback u => exact ⟨rfl, (forget_without t u).symm⟩

/-! ## Runs -/

/-- The run without the steps of a transaction leads to the store that the transaction is taken out
of, with the same results on the way. -/
theorem run_forget (sound : Sound m) (uncommitted : m.never (commits t) actions = true)
    (unhindered : m.never (hinders t) actions = true) :
    let others := actions.filter (·.handle != .transaction t)
    (forget t m).results others = (m.results actions).filter (·.1.handle != .transaction t) ∧
      (forget t m).run others = forget t (m.run actions) := by
  induction actions generalizing m with
  | nil => exact ⟨rfl, rfl⟩
  | cons a rest ih =>
    simp only [never, Bool.and_eq_true, Bool.not_eq_true'] at uncommitted unhindered
    have later := ih (sound.act a) uncommitted.2 unhindered.2
    by_cases own : a.handle = .transaction t
    · rw [forget_act_own sound own uncommitted.1] at later
      simpa [results, run, own] using later
    · obtain ⟨sameResult, sameStore⟩ := act_forget own unhindered.1
      rw [← sameStore] at later
      simpa [results, run, own, sameResult] using later

/-- A transaction that has ended without being committed, and for whose reservations nobody was
refused, can be left out: everything else has the same result without it, and the store is the same
in the end, but for the number that is free again. -/
theorem forgotten_run (actions : List Action)
    (closed : (empty.run actions).transaction? t = none)
    (uncommitted : empty.never (commits t) actions = true)
    (unhindered : empty.never (hinders t) actions = true) :
    let others := actions.filter (·.handle != .transaction t)
    empty.results others = (empty.results actions).filter (·.1.handle != .transaction t) ∧
      empty.run others =
        { empty.run actions with begun := (empty.run actions).begun.filter (· != t) } := by
  have sound := sound_run actions
  obtain ⟨sameResults, sameStore⟩ := run_forget sound_empty uncommitted unhindered
  refine ⟨sameResults, Eq.trans sameStore ?_⟩
  have transactions : (empty.run actions).transactions.filter (·.1 != t) =
      (empty.run actions).transactions := by
    refine List.filter_eq_self.mpr fun e member => bne_iff_ne.mpr ?_
    rintro rfl
    have isOpen := (mem_transactions_iff sound.numbers).mp member
    exact Option.some_ne_none e.2 (isOpen.symm.trans closed)
  have reservations : (empty.run actions).reservations.release t =
      (empty.run actions).reservations := by
    refine List.filter_eq_self.mpr fun e member => bne_iff_ne.mpr ?_
    rintro rfl
    exact sound.not_reserved_of_closed closed member
  simp only [forget, without, transactions, reservations]

/-- A transaction subscribes a project and adds a profile that is then added through the store
itself, so that it cannot be committed. In the meantime another project is subscribed to the same
bundle. -/
def lateProfile : List Action :=
  let profile : NewContent Profile := ⟨⟨1⟩, ⟨2⟩, none, ⟨"p", none, [], none, none, []⟩⟩
  [.begin 0, .ask (.transaction 0) (.ensureBundle "s" "b"),
    .ask (.transaction 0) (.addSubscription ⟨1⟩ (.issued (.transaction 0) 0) "v1"),
    .ask (.transaction 0) (.addProfile profile), .begin 1, .ask .direct (.addProfile profile),
    .ask (.transaction 1) (.ensureBundle "s" "b"),
    .ask (.transaction 1) (.addSubscription ⟨2⟩ (.issued (.transaction 1) 0) "v1"), .commit 0,
    .commit 1, .ask .direct (.findSubscription ⟨2⟩ "s" "b")]

theorem forgotten_run_lateProfile :
    let others := lateProfile.filter (·.handle != .transaction 0)
    others.length = 6 ∧
      ((empty.run (lateProfile.take 8)).commit 0).1 = .error (.unique schema.secondProfile) ∧
      empty.results others =
        (empty.results lateProfile).filter (·.1.handle != .transaction 0) ∧
      empty.run others = { empty.run lateProfile with begun := [1] } :=
  ⟨rfl, rfl, forgotten_run (t := 0) lateProfile rfl rfl rfl⟩

end RuleCatalog.Store.Memory
