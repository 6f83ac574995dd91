import RuleCatalog.Proofs.Store.Views

/-! # When requests are granted

A handle that is open grants a request whenever the tables that it sees allow it. Only a
subscription may be refused for what happens elsewhere: its key can be reserved by another
transaction, or be committed since the handle has got its tables. A request that is refused leaves
the whole store as it is, ids and reservations included.
-/

namespace RuleCatalog.Store.Memory

variable {m : Memory} {h : Handle} {t : TxId} {rows rows' : Rows} {r : Request} {e : Error}

/-! ## Refusals -/

private theorem Transaction.answer_of_refused {committed : Rows}
    {state : Transaction × Reservations}
    (refused : (Transaction.answer t committed r state).1 = .error e) :
    (Transaction.answer t committed r state).2 = state := by
  obtain ⟨tx, reservations⟩ := state
  cases r with
  | findSubscription | findRuleType | findProfile => rfl
  | ensureBundle space name =>
    simp only [answer] at refused
    split at refused <;> cases refused
  | addSubscription project bundle version =>
    simp only [answer] at refused ⊢
    rcases addSubscription_cases t committed ⟨tx.nextId t, project, bundle, version⟩ tx reservations
      with ⟨e', isRefused⟩ | ⟨key, rows, -, -, -, -, granted⟩
    · rw [isRefused]
    · rw [granted] at refused
      cases refused
  | putRuleType content =>
    cases put : tx.rows.putRuleType schema (content.row (tx.nextId t) content.definition.name) with
    | error e' => simp only [answer, put]
    | ok result =>
      simp only [answer, put] at refused
      cases refused
  | addProfile content =>
    cases added : tx.rows.addProfile schema (content.row (tx.nextId t) content.definition.name) with
    | error e' => simp only [answer, added]
    | ok rows =>
      simp only [answer, added] at refused
      cases refused

private theorem answerDirect_of_refused (refused : (answerDirect r m).1 = .error e) :
    (answerDirect r m).2 = m := by
  cases r with
  | findSubscription | findRuleType | findProfile => rfl
  | ensureBundle space name =>
    simp only [answerDirect] at refused
    split at refused <;> cases refused
  | addSubscription project bundle version =>
    simp only [answerDirect, addSubscription] at refused ⊢
    split at refused
    · rename_i taken
      rw [if_pos taken]
    · rename_i free
      rw [if_neg free]
      cases added : m.committed.addSubscription schema ⟨m.nextId, project, bundle, version⟩ with
      | error e' => rfl
      | ok rows =>
        simp only [added] at refused
        cases refused
  | putRuleType content =>
    cases put : m.committed.putRuleType schema (content.row m.nextId content.definition.name) with
    | error e' => simp only [answerDirect, put]
    | ok result =>
      simp only [answerDirect, put] at refused
      cases refused
  | addProfile content =>
    cases added : m.committed.addProfile schema (content.row m.nextId content.definition.name) with
    | error e' => simp only [answerDirect, added]
    | ok rows =>
      simp only [answerDirect, added] at refused
      cases refused

/-- A request that is refused changes nothing. -/
theorem Sound.answer_of_refused (sound : m.Sound) (refused : (answer h r m).1 = .error e) :
    answer h r m = (.error e, m) := by
  refine Prod.ext refused ?_
  cases h with
  | direct => exact answerDirect_of_refused refused
  | transaction t =>
    cases isOpen : m.transaction? t with
    | none => simp only [answer, isOpen]
    | some tx =>
      simp only [answer, isOpen] at refused ⊢
      have same := congrArg (fun state : Transaction × Reservations =>
        { m.withTransaction t state.1 with reservations := state.2 })
        (Transaction.answer_of_refused refused)
      exact same.trans (withTransaction_self sound.numbers isOpen)

theorem Sound.run {α : Type} (sound : m.Sound) (script : Script α) :
    (script.run (answer h) m).2.Sound := by
  induction script generalizing m with
  | done a => exact sound
  | ask r next ih => exact ih _ (sound.act (.ask h r))

/-- What other handles see stays as it is, whatever is computed. -/
theorem view?_run_ne {α : Type} {h' : Handle} (apart : h' ≠ h) (script : Script α) :
    (script.run (answer h) m).2.view? h' = m.view? h' := by
  induction script generalizing m with
  | done a => rfl
  | ask r next ih => exact (ih _).trans (view?_answer_ne apart)

/-! ## Looking -/

theorem Sound.look_subscription (sound : m.Sound) (view : m.view? h = some rows) (project : Uuid)
    (space name : String) :
    answer h (.findSubscription project space name) m =
      (Transaction.found (rows.subscription? project space name), m) := by
  cases found : rows.subscription? project space name with
  | some s => exact sound.answer_findSubscription view found
  | none =>
    obtain ⟨rows', -, answered⟩ := answer_answered view (.findSubscription project space name)
    apply sound.answer_of_refused
    generalize (answer h (.findSubscription project space name) m).1 = outcome at answered ⊢
    cases answered
    rw [found]
    rfl

theorem Sound.look_ruleType (sound : m.Sound) (view : m.view? h = some rows) (project : Uuid)
    (name : String) :
    answer h (.findRuleType project name) m =
      (Transaction.found (rows.ruleType? project name), m) := by
  cases h with
  | direct =>
    cases view
    rfl
  | transaction t =>
    obtain ⟨tx, isOpen, rfl⟩ := Option.map_eq_some_iff.mp view
    simp only [answer, isOpen, Transaction.answer, withTransaction_self sound.numbers isOpen]

/-! ## Content -/

/-- A rule type is put if its subscription is there. -/
theorem answer_putRuleType (view : m.view? h = some rows) {content : NewContent RuleType}
    (linked : rows.linked content.subscription = true) :
    ∃ id kept rows', rows.putRuleType schema (content.row id content.definition.name) =
        .ok (kept, rows') ∧
      (answer h (.putRuleType content) m).1 = .ok kept ∧
      (answer h (.putRuleType content) m).2.view? h = some rows' := by
  have put (id : RowId) : ∃ kept rows', rows.putRuleType schema
      (content.row id content.definition.name) = .ok (kept, rows') :=
    ⟨_, _, Tables.putRuleType_eq_ok_iff.mpr ⟨linked, rfl, rfl⟩⟩
  cases h with
  | direct =>
    cases view
    obtain ⟨kept, rows', put⟩ := put m.nextId
    refine ⟨m.nextId, kept, rows', put, ?_, ?_⟩ <;> simp only [answer, answerDirect, put]
    rfl
  | transaction t =>
    obtain ⟨tx, isOpen, rfl⟩ := Option.map_eq_some_iff.mp view
    obtain ⟨kept, rows', put⟩ := put (tx.nextId t)
    refine ⟨tx.nextId t, kept, rows', put, ?_, ?_⟩ <;>
      simp only [answer, isOpen, Transaction.answer, put]
    exact Option.map_eq_some_iff.mpr ⟨_, transaction?_withTransaction_self isOpen, rfl⟩

/-- A rule type is refused if its subscription is missing. -/
theorem Sound.answer_putRuleType_of_missing (sound : m.Sound) (view : m.view? h = some rows)
    {content : NewContent RuleType} (missing : rows.linked content.subscription = false) :
    answer h (.putRuleType content) m =
      (.error (.foreignKey (schema.missingSubscription .ruleTypes)), m) := by
  have refused (id : RowId) : rows.putRuleType schema
      (content.row id content.definition.name) =
        .error (.foreignKey (schema.missingSubscription .ruleTypes)) := by
    simp [Tables.putRuleType, NewContent.row, missing]
  apply sound.answer_of_refused
  cases h with
  | direct =>
    cases view
    simp only [answer, answerDirect, refused]
  | transaction t =>
    obtain ⟨tx, isOpen, rfl⟩ := Option.map_eq_some_iff.mp view
    simp only [answer, isOpen, Transaction.answer, refused]

/-- The rules that a profile has to keep. -/
structure Allows (rows : Rows) (content : NewContent Profile) : Prop where
  linked : rows.linked content.subscription = true
  free : (content.project, content.definition.name) ∉ rows.profiles.map ContentRow.place

/-- A profile is added if it keeps the rules. -/
theorem answer_addProfile (view : m.view? h = some rows) {content : NewContent Profile}
    (allowed : Allows rows content) :
    ∃ id, (answer h (.addProfile content) m).1 = .ok (content.row id content.definition.name) ∧
      (answer h (.addProfile content) m).2.view? h = some { rows with
        profiles := rows.profiles ++ [content.row id content.definition.name] } := by
  have added (id : RowId) : rows.addProfile schema (content.row id content.definition.name) =
      .ok { rows with profiles := rows.profiles ++ [content.row id content.definition.name] } :=
    Tables.addProfile_eq_ok_iff.mpr ⟨allowed.linked, allowed.free, rfl⟩
  cases h with
  | direct =>
    cases view
    refine ⟨m.nextId, ?_, ?_⟩ <;> simp only [answer, answerDirect, added]
    rfl
  | transaction t =>
    obtain ⟨tx, isOpen, rfl⟩ := Option.map_eq_some_iff.mp view
    refine ⟨tx.nextId t, ?_, ?_⟩ <;> simp only [answer, isOpen, Transaction.answer, added]
    exact Option.map_eq_some_iff.mpr ⟨_, transaction?_withTransaction_self isOpen, rfl⟩

theorem allows_of_granted (view : m.view? h = some rows) {content : NewContent Profile}
    {row : ContentRow Profile} (granted : (answer h (.addProfile content) m).1 = .ok row) :
    Allows rows content := by
  obtain ⟨rows', -, answered⟩ := answer_answered view (.addProfile content)
  rw [granted] at answered
  cases answered with
  | profile id added =>
    obtain ⟨linked, free, -⟩ := Tables.addProfile_eq_ok_iff.mp added
    exact ⟨linked, free⟩

/-! ## Subscriptions -/

/-- Whether a handle may add a subscription with a key. -/
structure FreeFor (m : Memory) (h : Handle) (key : SubscriptionKey) : Prop where
  uncommitted : m.committed.subscription? key.project key.space key.name = none
  /-- No other transaction has reserved the key. -/
  unreserved : ∀ t, m.reservations.lookup key = some t → h = .transaction t

theorem held_eq_false_iff {reservations : Reservations} {key : SubscriptionKey} :
    reservations.held key = false ↔ ∀ t, reservations.lookup key ≠ some t := by
  rw [Reservations.held, Option.isSome_eq_false_iff, Option.isNone_iff_eq_none,
    Option.eq_none_iff_forall_ne_some]

theorem heldByOther_eq_false_iff {reservations : Reservations} {key : SubscriptionKey} :
    reservations.heldByOther key t = false ↔ ∀ u, reservations.lookup key = some u → u = t := by
  cases found : reservations.lookup key <;> simp [Reservations.heldByOther, found]

theorem hasKey_eq_false_iff {key : SubscriptionKey} :
    hasKey rows key = false ↔ rows.subscription? key.project key.space key.name = none := by
  rw [hasKey, Option.isSome_eq_false_iff, Option.isNone_iff_eq_none]

/-- A subscription of a project to a bundle that the handle sees, where it sees none, is added if
and only if the handle may add one with this key. -/
theorem Sound.answer_addSubscription_ok_iff (sound : m.Sound) (view : m.view? h = some rows)
    {b : BundleRow} (member : b ∈ rows.bundles) {project : Uuid} {version : String}
    (absent : rows.subscription? project b.space b.name = none) :
    (∃ s, (answer h (.addSubscription project b.id version) m).1 = .ok s) ↔
      FreeFor m h ⟨project, b.space, b.name⟩ := by
  have intact := sound.view_intact view
  have keyed (id : RowId) : keyOf rows ⟨id, project, b.id, version⟩ =
      some ⟨project, b.space, b.name⟩ := keyOf_of_bundle intact member rfl
  -- nothing in the tables of the handle is in the way
  have added (id : RowId) : ∃ rows', rows.addSubscription schema ⟨id, project, b.id, version⟩ =
      .ok rows' := by
    refine ⟨_, Tables.addSubscription_eq_ok_iff.mpr ⟨?_, ?_, rfl⟩⟩
    · exact Tables.hasBundle_iff.mpr (List.mem_map_of_mem member)
    · rw [← mem_keys_iff intact (keyed id), ← hasKey_iff intact]
      exact Bool.eq_false_iff.mp (hasKey_eq_false_iff.mpr absent)
  cases h with
  | direct =>
    cases view
    obtain ⟨rows', added⟩ := added m.nextId
    by_cases held : m.reservations.held ⟨project, b.space, b.name⟩ = true
    · refine iff_of_false ?_ fun free => ?_
      · simp [answer, answerDirect, addSubscription, keyed, held]
      · have unheld : m.reservations.held ⟨project, b.space, b.name⟩ = false := by
          refine held_eq_false_iff.mpr fun t reserved => ?_
          cases free.unreserved t reserved
        exact Bool.eq_false_iff.mp unheld held
    · refine iff_of_true ?_ ⟨absent, fun t reserved => ?_⟩
      · simp [answer, answerDirect, addSubscription, keyed, held, added]
      · exact (held_eq_false_iff.mp (Bool.eq_false_iff.mpr held) t reserved).elim
  | transaction t =>
    obtain ⟨tx, isOpen, rfl⟩ := Option.map_eq_some_iff.mp view
    obtain ⟨rows', added⟩ := added (tx.nextId t)
    have free_iff : FreeFor m (.transaction t) ⟨project, b.space, b.name⟩ ↔
        (m.reservations.heldByOther ⟨project, b.space, b.name⟩ t ||
          hasKey m.committed ⟨project, b.space, b.name⟩) = false := by
      rw [Bool.or_eq_false_iff, heldByOther_eq_false_iff, hasKey_eq_false_iff]
      constructor
      · intro free
        exact ⟨fun u reserved => (Handle.transaction.inj (free.unreserved u reserved)).symm,
          free.uncommitted⟩
      · rintro ⟨unreserved, uncommitted⟩
        exact ⟨uncommitted, fun u reserved => congrArg _ (unreserved u reserved).symm⟩
    rw [free_iff]
    cases taken : (m.reservations.heldByOther ⟨project, b.space, b.name⟩ t ||
        hasKey m.committed ⟨project, b.space, b.name⟩) <;>
      simp [answer, isOpen, Transaction.answer, Transaction.addSubscription, keyed, taken, added]

/-! ## Bundles -/

theorem hasKey_addBundle {row : BundleRow} {key : SubscriptionKey} (intact : rows.Intact)
    (intact' : (rows.addBundle row).Intact) :
    hasKey (rows.addBundle row) key = hasKey rows key := by
  rw [Bool.eq_iff_iff, hasKey_iff intact', hasKey_iff intact, keys_addBundle intact]

theorem Answered.hasKey_eq {space name : String} {outcome : Except Error BundleRow}
    (answered : Answered (.ensureBundle space name) rows outcome rows') (intact : rows.Intact)
    (intact' : rows'.Intact) (key : SubscriptionKey) : hasKey rows' key = hasKey rows key := by
  cases answered with
  | known => rfl
  | bundle => exact hasKey_addBundle intact intact'

theorem reservations_ensureBundle {space name : String} :
    (answer h (.ensureBundle space name) m).2.reservations = m.reservations := by
  cases h with
  | direct => exact (answerDirect_step _ m).reservations
  | transaction t =>
    cases isOpen : m.transaction? t with
    | none => simp only [answer, isOpen]
    | some tx =>
      simp only [answer, isOpen, Transaction.answer]
      split <;> rfl

/-- A bundle that is made sure of makes no difference to which subscriptions may be added. -/
theorem Sound.freeFor_ensureBundle (sound : m.Sound) {space name : String} {key : SubscriptionKey} :
    FreeFor (answer h (.ensureBundle space name) m).2 h key ↔ FreeFor m h key := by
  have sound' : (answer h (.ensureBundle space name) m).2.Sound :=
    sound.act (.ask h (.ensureBundle space name))
  have same : hasKey (answer h (.ensureBundle space name) m).2.committed key =
      hasKey m.committed key := by
    cases h with
    | direct =>
      have answered := answerDirect_answered (.ensureBundle space name) m
      exact answered.hasKey_eq sound.intact sound'.intact key
    | transaction t =>
      have seen : (answer (.transaction t) (.ensureBundle space name) m).2.view? .direct =
          m.view? .direct := view?_answer_ne nofun
      rw [Option.some.inj seen]
  have reservations : (answer h (.ensureBundle space name) m).2.reservations = m.reservations :=
    reservations_ensureBundle
  constructor
  · rintro ⟨uncommitted, unreserved⟩
    rw [← hasKey_eq_false_iff, same] at uncommitted
    exact ⟨hasKey_eq_false_iff.mp uncommitted, reservations ▸ unreserved⟩
  · rintro ⟨uncommitted, unreserved⟩
    rw [← hasKey_eq_false_iff, ← same] at uncommitted
    exact ⟨hasKey_eq_false_iff.mp uncommitted, reservations.symm ▸ unreserved⟩

/-! ## Computations -/

section Computations

variable {m' : Memory} {ε : Type} {condition condition' : Prop} {Q Q' : Rows → Prop}
  {ended : Except ε Unit × Memory}

/-- A computation has succeeded exactly under a condition, and if so its handle sees tables as
demanded. -/
structure Decided (h : Handle) (condition : Prop) (Q : Rows → Prop)
    (ended : Except ε Unit × Memory) : Prop where
  ok_iff : ended.1 = .ok () ↔ condition
  reached : ended.1 = .ok () → ∃ rows, ended.2.view? h = some rows ∧ Q rows

theorem decided_error {e : ε} (unmet : ¬condition) : Decided h condition Q (.error e, m) where
  ok_iff := iff_of_false nofun unmet
  reached := nofun

theorem decided_ok (met : condition) (view : m.view? h = some rows) (holds : Q rows) :
    Decided (ε := ε) h condition Q (.ok (), m) where
  ok_iff := iff_of_true rfl met
  reached _ := ⟨rows, view, holds⟩

theorem Decided.imp (decided : Decided h condition Q ended) (iff : condition ↔ condition')
    (weaker : ∀ rows, condition → ended.2.view? h = some rows → Q rows → Q' rows) :
    Decided h condition' Q' ended where
  ok_iff := decided.ok_iff.trans iff
  reached ok := by
    obtain ⟨rows, view, holds⟩ := decided.reached ok
    exact ⟨rows, view, weaker rows (decided.ok_iff.mp ok) view holds⟩

/-- A computation that was started in `m` has done all or nothing: if it fails, nothing in the whole
store has changed. -/
structure Atomic (m : Memory) (h : Handle) (condition : Prop) (Q : Rows → Prop)
    (ended : Except ε Unit × Memory) : Prop extends Decided h condition Q ended where
  unchanged : ∀ e, ended.1 = .error e → ended.2 = m

theorem atomic_error {e : ε} (unmet : ¬condition) : Atomic m h condition Q (.error e, m) :=
  { decided_error unmet with unchanged := fun _ _ => rfl }

theorem atomic_ok (met : condition) (view : m'.view? h = some rows) (holds : Q rows) :
    Atomic (ε := ε) m h condition Q (.ok (), m') :=
  { decided_ok met view holds with unchanged := nofun }

theorem Atomic.imp (atomic : Atomic m h condition Q ended) (iff : condition ↔ condition')
    (weaker : ∀ rows, condition → ended.2.view? h = some rows → Q rows → Q' rows) :
    Atomic m h condition' Q' ended :=
  { atomic.toDecided.imp iff weaker with unchanged := atomic.unchanged }

end Computations

end RuleCatalog.Store.Memory
