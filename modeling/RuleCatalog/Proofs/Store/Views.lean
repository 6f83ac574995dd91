import RuleCatalog.Proofs.Store.Exclusion

/-! # What requests do to the tables that handles see

Every handle sees tables of its own. A request changes those of the handle through which it is made,
and there are few ways in which it can: `Effect` has one for each kind of change. What all other
handles see stays as it is.
-/

namespace RuleCatalog.Store.Memory

/-! ## Effects of requests -/

/-- What a request makes of the tables that its handle sees. -/
inductive Effect : Request → Rows → Rows → Prop
  | same {r rows} : Effect r rows rows
  | bundle {space name rows} (row : BundleRow) :
      Effect (.ensureBundle space name) rows (rows.addBundle row)
  | subscription {project bundle version rows rows'} (id : RowId)
      (added : rows.addSubscription schema ⟨id, project, bundle, version⟩ = .ok rows') :
      Effect (.addSubscription project bundle version) rows rows'
  | ruleType {content rows rows' kept} (id : RowId)
      (put : rows.putRuleType schema (content.row id content.definition.name) = .ok (kept, rows')) :
      Effect (.putRuleType content) rows rows'
  | profile {content rows rows'} (id : RowId)
      (added : rows.addProfile schema (content.row id content.definition.name) = .ok rows') :
      Effect (.addProfile content) rows rows'

variable {m : Memory} {h h' : Handle} {t : TxId} {rows rows' : Rows} {r : Request}

theorem Effect.keeps (effect : Effect r rows rows') : rows.Keeps rows' := by
  cases effect with
  | same => exact .refl _
  | bundle => exact .addBundle ..
  | subscription _ added => exact .addSubscription added
  | ruleType _ put => exact .putRuleType put
  | profile _ added => exact .addProfile added

/-- What an answer shows of the tables as they are then. -/
def Shows (rows : Rows) : (r : Request) → Except Error r.Answer → Prop
  | .findSubscription project .., .ok row => row ∈ rows.subscriptions ∧ row.project = project
  | .addSubscription project .., .ok row => row ∈ rows.subscriptions ∧ row.project = project
  | .findRuleType project name, .ok _ => (project, name) ∈ rows.ruleTypes.map ContentRow.place
  | _, _ => True

theorem shows_error (rows : Rows) (r : Request) (e : Error) : Shows rows r (.error e) := by
  cases r <;> trivial

theorem shows_subscription (project : Uuid) (space name : String) :
    Shows rows (.findSubscription project space name)
      (Transaction.found (rows.subscription? project space name)) := by
  cases found : rows.subscription? project space name with
  | none => trivial
  | some row =>
    obtain ⟨present, own, -⟩ := Tables.subscription?_eq_some found
    exact ⟨present, own⟩

theorem shows_ruleType (project : Uuid) (name : String) :
    Shows rows (.findRuleType project name)
      (Transaction.found (rows.ruleType? project name)) := by
  cases found : rows.ruleType? project name with
  | none => trivial
  | some row =>
    exact List.mem_map.mpr ⟨row, List.mem_of_find?_eq_some found, ContentRow.place_of_found found⟩

theorem shows_added {row : Subscription} (version : String)
    (added : rows.addSubscription schema row = .ok rows') :
    Shows rows' (.addSubscription row.project row.bundle version) (.ok row) := by
  obtain ⟨-, -, rfl⟩ := Tables.addSubscription_eq_ok_iff.mp added
  exact ⟨List.mem_append_right _ (List.mem_singleton_self row), rfl⟩

/-- How a request is answered by a handle that sees given tables, and what the handle sees then. A
request that writes may also be refused, and then it changes nothing. -/
inductive Answered : (r : Request) → Rows → Except Error r.Answer → Rows → Prop
  | findSubscription {project space name rows} :
      Answered (.findSubscription project space name) rows
        (Transaction.found (rows.subscription? project space name)) rows
  | findRuleType {project name rows} :
      Answered (.findRuleType project name) rows
        (Transaction.found (rows.ruleType? project name)) rows
  | findProfile {project name rows} :
      Answered (.findProfile project name) rows
        (Transaction.found (rows.profile? project name)) rows
  | known {space name rows row} (known : rows.bundle? space name = some row) :
      Answered (.ensureBundle space name) rows (.ok row) rows
  | bundle {space name rows} (id : RowId) (absent : rows.bundle? space name = none) :
      Answered (.ensureBundle space name) rows (.ok ⟨id, space, name⟩)
        (rows.addBundle ⟨id, space, name⟩)
  | subscription {project bundle version rows rows'} (id : RowId)
      (added : rows.addSubscription schema ⟨id, project, bundle, version⟩ = .ok rows') :
      Answered (.addSubscription project bundle version) rows (.ok ⟨id, project, bundle, version⟩)
        rows'
  | noSubscription {project bundle version rows} (e : Error) :
      Answered (.addSubscription project bundle version) rows (.error e) rows
  | ruleType {content rows rows' kept} (id : RowId)
      (put : rows.putRuleType schema (content.row id content.definition.name) = .ok (kept, rows')) :
      Answered (.putRuleType content) rows (.ok kept) rows'
  | noRuleType {content rows} (e : Error) : Answered (.putRuleType content) rows (.error e) rows
  | profile {content rows rows'} (id : RowId)
      (added : rows.addProfile schema (content.row id content.definition.name) = .ok rows') :
      Answered (.addProfile content) rows (.ok (content.row id content.definition.name)) rows'
  | noProfile {content rows} (e : Error) : Answered (.addProfile content) rows (.error e) rows

theorem Transaction.answer_answered (committed : Rows) (r : Request) (tx : Transaction)
    (reservations : Reservations) :
    let result := Transaction.answer t committed r (tx, reservations)
    Answered r tx.rows result.1 result.2.1.rows := by
  cases r with
  | findSubscription project space name => exact .findSubscription
  | findRuleType project name => exact .findRuleType
  | findProfile project name => exact .findProfile
  | ensureBundle space name =>
    cases found : tx.rows.bundle? space name with
    | some row => simpa only [answer, found] using .known found
    | none => simpa only [answer, found, after] using .bundle _ found
  | addSubscription project bundle version =>
    simp only [answer]
    rcases addSubscription_cases t committed ⟨tx.nextId t, project, bundle, version⟩ tx reservations
      with ⟨e, refused⟩ | ⟨key, rows, -, -, -, added, answered⟩
    · rw [refused]
      exact .noSubscription e
    · rw [answered]
      exact .subscription _ added
  | putRuleType content =>
    cases put : tx.rows.putRuleType schema
        (content.row (tx.nextId t) content.definition.name) with
    | error e => simpa only [answer, put] using .noRuleType e
    | ok result => simpa only [answer, put, after] using .ruleType _ put
  | addProfile content =>
    cases added : tx.rows.addProfile schema
        (content.row (tx.nextId t) content.definition.name) with
    | error e => simpa only [answer, added] using .noProfile e
    | ok rows => simpa only [answer, added, after] using .profile _ added

theorem answerDirect_answered (r : Request) (m : Memory) :
    Answered r m.committed (answerDirect r m).1 (answerDirect r m).2.committed := by
  cases r with
  | findSubscription project space name => exact .findSubscription
  | findRuleType project name => exact .findRuleType
  | findProfile project name => exact .findProfile
  | ensureBundle space name =>
    cases found : m.committed.bundle? space name with
    | some row => simpa only [answerDirect, found] using .known found
    | none => simpa only [answerDirect, found, after] using .bundle _ found
  | addSubscription project bundle version =>
    simp only [answerDirect, addSubscription]
    split
    · exact .noSubscription _
    · cases added : m.committed.addSubscription schema ⟨m.nextId, project, bundle, version⟩ with
      | error e => exact .noSubscription e
      | ok rows => exact .subscription _ added
  | putRuleType content =>
    cases put : m.committed.putRuleType schema (content.row m.nextId content.definition.name) with
    | error e => simpa only [answerDirect, put] using .noRuleType e
    | ok result => simpa only [answerDirect, put, after] using .ruleType _ put
  | addProfile content =>
    cases added : m.committed.addProfile schema (content.row m.nextId content.definition.name) with
    | error e => simpa only [answerDirect, added] using .noProfile e
    | ok rows => simpa only [answerDirect, added, after] using .profile _ added

/-- An open handle answers from what it sees. -/
theorem answer_answered (view : m.view? h = some rows) (r : Request) :
    ∃ rows', (answer h r m).2.view? h = some rows' ∧ Answered r rows (answer h r m).1 rows' := by
  cases h with
  | direct =>
    cases view
    exact ⟨_, rfl, answerDirect_answered r m⟩
  | transaction t =>
    obtain ⟨tx, isOpen, rfl⟩ := Option.map_eq_some_iff.mp view
    have answered := tx.answer_answered (t := t) m.committed r m.reservations
    simp only [answer, isOpen]
    refine ⟨_, ?_, answered⟩
    exact Option.map_eq_some_iff.mpr ⟨_, transaction?_withTransaction_self isOpen, rfl⟩

theorem Answered.effect {answer : Except Error r.Answer} (answered : Answered r rows answer rows') :
    Effect r rows rows' := by
  cases answered with
  | bundle id => exact .bundle _
  | subscription id added => exact .subscription id added
  | ruleType id put => exact .ruleType id put
  | profile id added => exact .profile id added
  | _ => exact .same

theorem Answered.shows {answer : Except Error r.Answer} (answered : Answered r rows answer rows') :
    Shows rows' r answer := by
  cases answered with
  | findSubscription => exact shows_subscription ..
  | findRuleType => exact shows_ruleType ..
  | subscription id added => exact shows_added _ added
  | _ => trivial

/-- A request changes what its handle sees, and its answer shows what that is. -/
theorem answer_effect (view : m.view? h = some rows) (r : Request) :
    ∃ rows', (answer h r m).2.view? h = some rows' ∧ Effect r rows rows' ∧
      Shows rows' r (answer h r m).1 := by
  obtain ⟨rows', view', answered⟩ := answer_answered view r
  exact ⟨rows', view', answered.effect, answered.shows⟩

/-- No request is answered through a transaction that is not open. -/
theorem answer_of_closed (closed : m.view? h = none) (r : Request) :
    answer h r m = (.error noTransaction, m) := by
  cases h with
  | direct => cases closed
  | transaction t =>
    have isClosed : m.transaction? t = none := Option.map_eq_none_iff.mp closed
    simp only [answer, isClosed]

theorem DirectStep.reservations {m' : Memory} (step : DirectStep m m') :
    m'.reservations = m.reservations := by
  cases step <;> rfl

theorem begun_answer : (answer h r m).2.begun = m.begun := by
  cases h with
  | direct => exact (answerDirect_step r m).begun
  | transaction t =>
    cases isOpen : m.transaction? t <;> simp only [answer, isOpen, withTransaction]

theorem Sound.view_intact (sound : Sound m) (view : m.view? h = some rows) : rows.Intact := by
  cases h with
  | direct =>
    cases view
    exact sound.intact
  | transaction t =>
    obtain ⟨tx, isOpen, rfl⟩ := Option.map_eq_some_iff.mp view
    exact sound.rows_intact isOpen

/-! ## Other handles -/

/-- What other handles see stays as it is. -/
theorem view?_answer_ne (apart : h' ≠ h) : (answer h r m).2.view? h' = m.view? h' := by
  cases h with
  | direct =>
    cases h' with
    | direct => exact (apart rfl).elim
    | transaction u =>
      have same := (answerDirect_step r m).transactions
      exact congrArg (fun l => (List.lookup u l).map (·.rows)) same
  | transaction t =>
    cases isOpen : m.transaction? t with
    | none => simp only [answer, isOpen]
    | some tx =>
      simp only [answer, isOpen]
      cases h' with
      | direct => rfl
      | transaction u =>
        have other : u ≠ t := fun same => apart (congrArg Handle.transaction same)
        exact congrArg (Option.map (·.rows)) (transaction?_withTransaction_ne other)

/-- Only a transaction that begins is there that was not there before. -/
theorem view?_of_begin (view : (m.act (.begin t)).view? h = some rows) :
    m.view? h = some rows ∨ h = .transaction t ∧ t ∉ m.begun ∧ rows = m.committed := by
  cases opened : m.begin t with
  | error e =>
    simp only [act, opened] at view
    exact .inl view
  | ok m' =>
    obtain ⟨fresh, rfl⟩ := begin_eq_ok_iff.mp opened
    simp only [act, opened] at view
    cases h with
    | direct => exact .inl view
    | transaction u =>
      obtain ⟨tx, isOpen, rfl⟩ := Option.map_eq_some_iff.mp view
      by_cases same : u = t
      · obtain rfl : Transaction.start m.committed = tx := by
          simpa [transaction?, same] using isOpen
        exact .inr ⟨congrArg _ same, fresh, rfl⟩
      · have wasOpen : m.transaction? u = some tx := by
          simpa [transaction?, List.lookup_cons, beq_false_of_ne same] using isOpen
        exact .inl (Option.map_eq_some_iff.mpr ⟨tx, wasOpen, rfl⟩)

/-- What is seen after a transaction has ended was seen before. -/
theorem view?_of_without (view : (m.without t).view? h = some rows) : m.view? h = some rows := by
  cases h with
  | direct => exact view
  | transaction u =>
    obtain ⟨tx, stillOpen, rfl⟩ := Option.map_eq_some_iff.mp view
    exact Option.map_eq_some_iff.mpr ⟨tx, (transaction?_without_eq_some_iff.mp stillOpen).2, rfl⟩

/-- Only the committed tables change when a transaction is committed. -/
theorem Sound.view?_of_commit (sound : Sound m) (view : (m.commit t).2.view? h = some rows) :
    m.view? h = some rows ∨ h = .direct ∧ ∃ tx redirection, m.transaction? t = some tx ∧
      Merged m.committed tx rows redirection := by
  cases isOpen : m.transaction? t with
  | none =>
    simp only [Memory.commit, isOpen] at view
    exact .inl view
  | some tx =>
    rcases sound.commit_cases isOpen with ⟨-, ended⟩ | ⟨-, rows', redirection, merged, ended⟩
    · rw [ended] at view
      exact .inl (view?_of_without view)
    · rw [ended] at view
      cases h with
      | direct =>
        cases view
        exact .inr ⟨rfl, tx, redirection, rfl, merged⟩
      | transaction u => exact .inl (view?_of_without (t := t) view)

/-! ## Whatever is done -/

theorem begun_act (m : Memory) (a : Action) : m.begun ⊆ (m.act a).begun := by
  cases a with
  | begin t =>
    cases opened : m.begin t with
    | error e => simp [act, opened]
    | ok m' =>
      obtain ⟨-, rfl⟩ := begin_eq_ok_iff.mp opened
      simp [act, opened]
  | ask h r =>
    change m.begun ⊆ (answer h r m).2.begun
    rw [begun_answer]
    exact List.Subset.refl _
  | commit t =>
    change m.begun ⊆ (m.commit t).2.begun
    unfold commit
    split
    · exact List.Subset.refl _
    · split <;> exact List.Subset.refl _
  | rollback t => exact List.Subset.refl _

/-- A handle still sees all that it has seen before, or it is a transaction that has begun just now
on the committed tables. -/
theorem Sound.view_act (sound : Sound m) {a : Action} (view : (m.act a).view? h = some rows') :
    (∃ rows, m.view? h = some rows ∧ rows.Keeps rows') ∨
      ∃ t, h = .transaction t ∧ t ∉ m.begun ∧ rows' = m.committed := by
  -- that the handle sees the same is enough
  have unchanged : m.view? h = some rows' → ∃ rows, m.view? h = some rows ∧ rows.Keeps rows' :=
    fun same => ⟨rows', same, .refl rows'⟩
  cases a with
  | begin t => exact (view?_of_begin view).imp unchanged fun began => ⟨t, began⟩
  | ask asked r =>
    left
    change (answer asked r m).2.view? h = some rows' at view
    by_cases same : h = asked
    · subst same
      cases before : m.view? h with
      | none =>
        rw [answer_of_closed before] at view
        exact (Option.some_ne_none rows' (view.symm.trans before)).elim
      | some rows =>
        obtain ⟨after, viewAfter, effect, -⟩ := answer_effect before r
        obtain rfl : after = rows' := Option.some.inj (viewAfter.symm.trans view)
        exact ⟨rows, rfl, effect.keeps⟩
    · exact unchanged (view?_answer_ne same ▸ view)
  | commit t =>
    left
    rcases sound.view?_of_commit view with same | ⟨rfl, _, _, -, merged⟩
    · exact unchanged same
    · exact ⟨m.committed, rfl, merged.keeps⟩
  | rollback t => exact .inl (unchanged (view?_of_without view))

/-- What is committed is there in all that is seen later, except by transactions that have begun
before. -/
theorem Sound.committed_keeps_view (sound : Sound m) (actions : List Action)
    (view : (m.run actions).view? h = some rows) (later : ∀ t, h = .transaction t → t ∉ m.begun) :
    m.committed.Keeps rows := by
  suffices (m.run actions).Sound ∧ ∀ h rows, (∀ t, h = .transaction t → t ∉ m.begun) →
      (m.run actions).view? h = some rows → m.committed.Keeps rows from this.2 h rows later view
  apply run_induction (P := fun m' => m'.Sound ∧ ∀ h rows,
    (∀ t, h = .transaction t → t ∉ m.begun) → m'.view? h = some rows → m.committed.Keeps rows)
  · refine ⟨sound, fun h rows later view => ?_⟩
    cases h with
    | direct =>
      cases view
      exact .refl _
    | transaction t =>
      obtain ⟨tx, isOpen, -⟩ := Option.map_eq_some_iff.mp view
      exact (later t rfl (sound.begun_of_open isOpen)).elim
  · rintro m' a ⟨sound', keeps⟩
    refine ⟨sound'.act a, fun h rows' later view => ?_⟩
    rcases sound'.view_act view with ⟨rows, before, kept⟩ | ⟨t, -, -, rfl⟩
    · exact (keeps h rows later before).trans kept
    · exact keeps .direct _ (fun _ => nofun) rfl

/-- Looking for a subscription changes nothing. -/
theorem Sound.answer_findSubscription (sound : Sound m) (view : m.view? h = some rows)
    {project : Uuid} {space name : String} {s : Subscription}
    (found : rows.subscription? project space name = some s) :
    answer h (.findSubscription project space name) m = (.ok s, m) := by
  cases h with
  | direct =>
    cases view
    simp only [Memory.answer, answerDirect, found, Transaction.found]
  | transaction t =>
    obtain ⟨tx, isOpen, rfl⟩ := Option.map_eq_some_iff.mp view
    simp only [Memory.answer, isOpen, Transaction.answer, found, Transaction.found,
      withTransaction_self sound.numbers isOpen]

end RuleCatalog.Store.Memory
