import RuleCatalog.Proofs.Store.Sound

/-! # The rules that hold in every state

Every change of the tables keeps their rules, and content is always filed under the name that its
definition gives. So the committed tables of a store in memory keep all rules after every run, and
so do the tables that an open transaction sees, however old the tables are on which it began.
-/

namespace RuleCatalog.Store.Memory

open Transaction

variable {m m' : Memory} {t : TxId} {tx tx' : Transaction} {s rows rows' : Rows}

/-! ## Names -/

/-- Content stands under the name that its definition gives. -/
structure Named (rows : Rows) : Prop where
  ruleTypes : ∀ r ∈ rows.ruleTypes, r.name = r.definition.name
  profiles : ∀ p ∈ rows.profiles, p.name = p.definition.name

/-- Tables that keep all rules and have their content under its names. -/
structure Consistent (rows : Rows) : Prop extends rows.Intact, Named rows

namespace Named

theorem empty : Named (.empty : Rows) := by
  constructor <;> simp [Tables.empty]

theorem addBundle (named : Named rows) (row : BundleRow) : Named (rows.addBundle row) :=
  ⟨named.ruleTypes, named.profiles⟩

theorem addSubscription (named : Named rows) {row : Subscription}
    (added : rows.addSubscription schema row = .ok rows') : Named rows' := by
  obtain ⟨-, -, rfl⟩ := Tables.addSubscription_eq_ok_iff.mp added
  exact ⟨named.ruleTypes, named.profiles⟩

theorem putRuleType (named : Named rows) (distinct : (rows.ruleTypes.map ContentRow.place).Nodup)
    {content : NewContent RuleType} {id : RowId} {kept : ContentRow RuleType}
    (put : rows.putRuleType schema (content.row id content.definition.name) = .ok (kept, rows')) :
    Named rows' := by
  obtain ⟨-, -, rfl⟩ := Tables.putRuleType_eq_ok_iff.mp put
  refine ⟨fun r member => ?_, named.profiles⟩
  rcases (Tables.mem_putRow distinct).mp member with ⟨old, -⟩ | rfl
  · exact named.ruleTypes r old
  · rw [Tables.putRow_fst]
    rfl

theorem addProfile (named : Named rows) {content : NewContent Profile} {id : RowId}
    (added : rows.addProfile schema (content.row id content.definition.name) = .ok rows') :
    Named rows' := by
  obtain ⟨-, -, rfl⟩ := Tables.addProfile_eq_ok_iff.mp added
  refine ⟨named.ruleTypes, fun p member => ?_⟩
  rcases List.mem_append.mp member with old | added
  · exact named.profiles p old
  · obtain rfl := List.mem_singleton.mp added
    rfl

end Named

/-! ## Logs -/

namespace Transaction.History

theorem named_ruleTypesOf (history : History t s tx) :
    ∀ r ∈ ruleTypesOf tx.log, r.name = r.definition.name := by
  induction history with
  | start => simp [Transaction.start, ruleTypesOf]
  | @ruleType tx content kept rows _ put ih =>
    obtain ⟨-, rfl, -⟩ := Tables.putRuleType_eq_ok_iff.mp put
    simp only [Transaction.after, ruleTypesOf_concat, Write.ruleType?, Option.toList_some,
      List.mem_append, List.mem_singleton]
    rintro r (old | rfl)
    · exact ih r old
    · rw [Tables.putRow_fst]
      rfl
  | bundle _ _ ih | subscription _ _ ih | profile _ _ ih =>
    simpa [Transaction.after, Write.ruleType?] using ih

theorem named_profilesOf (history : History t s tx) :
    ∀ p ∈ profilesOf tx.log, p.name = p.definition.name := by
  induction history with
  | start => simp [Transaction.start, profilesOf]
  | profile _ _ ih =>
    simp only [Transaction.after, profilesOf_concat, Write.profile?, Option.toList_some,
      List.mem_append, List.mem_singleton]
    rintro p (old | rfl)
    · exact ih p old
    · rfl
  | bundle _ _ ih | subscription _ _ ih | ruleType _ _ ih =>
    simpa [Transaction.after, Write.profile?] using ih

end Transaction.History

/-- A log that is replayed leaves everything under its name. -/
theorem Merged.named {redirection : Redirection} {base : Rows}
    (merged : Merged base tx rows redirection) (history : History t s tx) (named : Named base) :
    Named rows := by
  constructor
  · intro r member
    rcases (merged.ruleTypes r).mp member with ⟨old, -⟩ | ⟨w, last, rfl⟩
    · exact named.ruleTypes r old
    · exact history.named_ruleTypesOf w (mem_of_lastWrite last)
  · intro p member
    rcases List.mem_append.mp (merged.profiles ▸ member) with old | added
    · exact named.profiles p old
    · exact history.named_profilesOf p added

/-! ## Runs -/

/-- Whatever handle is used, the tables have their content under its names. -/
structure AllNamed (m : Memory) : Prop where
  committed : Named m.committed
  transactions : ∀ t tx, m.transaction? t = some tx → Named tx.rows

namespace AllNamed

theorem empty : AllNamed empty := ⟨Named.empty, by simp [Memory.empty, transaction?]⟩

private theorem without (named : AllNamed m) (t : TxId) : AllNamed (m.without t) :=
  ⟨named.committed, fun u tx isOpen =>
    named.transactions u tx (transaction?_without_eq_some_iff.mp isOpen).2⟩

private theorem begin (named : AllNamed m) (opened : m.begin t = .ok m') : AllNamed m' := by
  obtain ⟨-, rfl⟩ := begin_eq_ok_iff.mp opened
  refine ⟨named.committed, fun u tx isOpen => ?_⟩
  by_cases same : u = t
  · obtain rfl : Transaction.start m.committed = tx := by simpa [transaction?, same] using isOpen
    exact named.committed
  · exact named.transactions u tx
      (by simpa [transaction?, List.lookup_cons, beq_false_of_ne same] using isOpen)

private theorem direct (named : AllNamed m) (intact : m.committed.Intact)
    (step : DirectStep m m') : AllNamed m' := by
  suffices Named m'.committed from
    ⟨this, fun t tx isOpen => named.transactions t tx (by
      simpa only [transaction?, step.transactions] using isOpen)⟩
  cases step with
  | same => exact named.committed
  | bundle => exact named.committed.addBundle _
  | subscription _ added => exact named.committed.addSubscription added
  | ruleType put => exact named.committed.putRuleType intact.ruleTypePlaces put
  | profile added => exact named.committed.addProfile added

private theorem step {committed : Rows} {reservations reservations' : Reservations}
    (named : Named tx.rows) (intact : tx.rows.Intact)
    (step : Step t committed (tx, reservations) (tx', reservations')) : Named tx'.rows := by
  cases step with
  | same => exact named
  | bundle => exact named.addBundle _
  | subscription _ _ _ added => exact named.addSubscription added
  | ruleType put => exact named.putRuleType intact.ruleTypePlaces put
  | profile added => exact named.addProfile added

private theorem ask (named : AllNamed m) (sound : Sound m) (isOpen : m.transaction? t = some tx)
    {reservations : Reservations}
    (changed : Step t m.committed (tx, m.reservations) (tx', reservations)) :
    AllNamed { m.withTransaction t tx' with reservations := reservations } := by
  refine ⟨named.committed, fun u other otherOpen => ?_⟩
  by_cases same : u = t
  · subst same
    obtain rfl : tx' = other :=
      Option.some.inj ((transaction?_withTransaction_self isOpen).symm.trans otherOpen)
    exact step (named.transactions u tx isOpen) (sound.rows_intact isOpen) changed
  · exact named.transactions u other
      ((transaction?_withTransaction_ne same).symm.trans otherOpen)

private theorem commit (named : AllNamed m) (sound : Sound m) (t : TxId) :
    AllNamed (m.commit t).2 := by
  cases isOpen : m.transaction? t with
  | none => simpa only [Memory.commit, isOpen] using named
  | some tx =>
    rcases sound.commit_cases isOpen with ⟨-, ended⟩ | ⟨-, rows, redirection, merged, ended⟩
    · exact ended ▸ named.without t
    · obtain ⟨s, -, -, history⟩ := sound.histories t tx isOpen
      rw [ended]
      exact ⟨merged.named history named.committed, (named.without t).transactions⟩

theorem act (named : AllNamed m) (sound : Sound m) (a : Action) : AllNamed (m.act a) := by
  cases a with
  | begin t =>
    cases opened : m.begin t with
    | error e => simpa only [Memory.act, opened] using named
    | ok m' => simpa only [Memory.act, opened] using named.begin opened
  | ask h r =>
    cases h with
    | direct => exact named.direct sound.intact (answerDirect_step r m)
    | transaction t =>
      cases isOpen : m.transaction? t with
      | none => simpa only [Memory.act, answer, isOpen] using named
      | some tx =>
        simpa only [Memory.act, answer, isOpen] using
          named.ask sound isOpen (answer_step r (tx, m.reservations))
  | commit t => exact named.commit sound t
  | rollback t => exact named.without t

end AllNamed

theorem allNamed_run (actions : List Action) : AllNamed (empty.run actions) :=
  (run_induction (P := fun m => Sound m ∧ AllNamed m) ⟨sound_empty, .empty⟩
    (fun _ a kept => ⟨kept.1.act a, kept.2.act kept.1 a⟩) actions).2

/-- All tables of a store keep all rules. -/
structure Relational (m : Memory) : Prop where
  committed : Consistent m.committed
  /-- The tables that an open transaction sees. -/
  transactions : ∀ t tx, m.transaction? t = some tx → Consistent tx.rows

/-- After every run, the committed tables and those of every open transaction keep all rules. -/
theorem relational_run (actions : List Action) : Relational (empty.run actions) where
  committed :=
    { (sound_run actions).intact, (allNamed_run actions).committed with }
  transactions t tx isOpen :=
    { (sound_run actions).rows_intact isOpen, (allNamed_run actions).transactions t tx isOpen with }

end RuleCatalog.Store.Memory
