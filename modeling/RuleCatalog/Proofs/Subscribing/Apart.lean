import RuleCatalog.Proofs.Store.Shares
import RuleCatalog.Proofs.Store.Transcript
import RuleCatalog.Proofs.Subscribing.Confined

/-! # Projects do not interfere

An operation of a project goes the same way in all states that agree on the part of the project: it
has the same requests, answers and changes, and it changes nothing of other projects. The states can
be any two, whether or not a store gets there, and differ in all that belongs to other projects.
-/

namespace RuleCatalog.Subscribing

open Store Store.Memory

variable {p : Uuid} {h : Handle} {t : TxId} {m m' : Memory} {rows rows' : Rows} {r : Request}

/-! ## Tables that agree on a part -/

section Part

theorem Owned.part_iff {subscription : Option RowId} :
    Owned (part p rows) p subscription ↔ Owned rows p subscription := by
  constructor
  · rintro ⟨s, member, own⟩
    exact ⟨s, (List.mem_filter.mp member).1, own⟩
  · rintro ⟨s, member, isId, own⟩
    exact ⟨s, List.mem_filter.mpr ⟨member, beq_iff_eq.mpr own⟩, isId, own⟩

theorem Owned.linked {subscription : Option RowId} (owned : Owned rows p subscription) :
    rows.linked subscription = true := by
  obtain ⟨s, member, rfl, -⟩ := owned
  exact Tables.linked_iff.mpr (by simpa using ⟨s, member, rfl⟩)

/-- The store looks for the subscription of content among those of all projects, but what a project
owns is there in its own part. -/
theorem Owned.part_linked {subscription : Option RowId} (owned : Owned rows p subscription) :
    (part p rows).linked subscription = rows.linked subscription := by
  rw [owned.linked, (Owned.part_iff.mpr owned).linked]

variable (same : part p rows = part p rows')
include same

theorem agree_subscription? (space name : String) :
    rows.subscription? p space name = rows'.subscription? p space name := by
  rw [← part_subscription?, same, part_subscription?]

theorem agree_ruleType? (name : String) : rows.ruleType? p name = rows'.ruleType? p name := by
  rw [← part_ruleType?, same, part_ruleType?]

theorem agree_profile? (name : String) : rows.profile? p name = rows'.profile? p name := by
  rw [← part_profile?, same, part_profile?]

theorem agree_bundle? (space name : String) :
    rows.bundle? space name = rows'.bundle? space name := by
  change (part p rows).bundle? space name = (part p rows').bundle? space name
  rw [same]

theorem agree_keyOf : keyOf rows = keyOf rows' := by
  rw [← part_keyOf (p := p), same, part_keyOf]

theorem agree_hasKey {key : SubscriptionKey} (own : key.project = p) :
    hasKey rows key = hasKey rows' key := by
  rw [← part_hasKey own, same, part_hasKey own]

theorem agree_owned {subscription : Option RowId} (owned : Owned rows p subscription) :
    Owned rows' p subscription :=
  Owned.part_iff.mp (same ▸ Owned.part_iff.mpr owned)

theorem agree_addSubscription (row : Subscription) (own : row.project = p) :
    (rows.addSubscription schema row).map (part p) =
      (rows'.addSubscription schema row).map (part p) := by
  rw [← part_addSubscription own, same, part_addSubscription own]

theorem agree_putRuleType (row : ContentRow RuleType) (own : row.project = p)
    (owned : Owned rows p row.subscription) :
    (rows.putRuleType schema row).map (Prod.map id (part p)) =
      (rows'.putRuleType schema row).map (Prod.map id (part p)) := by
  rw [← part_putRuleType own owned.part_linked, same,
    part_putRuleType own (agree_owned same owned).part_linked]

theorem agree_addProfile (row : ContentRow Profile) (own : row.project = p)
    (owned : Owned rows p row.subscription) :
    (rows.addProfile schema row).map (part p) = (rows'.addProfile schema row).map (part p) := by
  rw [← part_addProfile own owned.part_linked, same,
    part_addProfile own (agree_owned same owned).part_linked]

end Part

/-- Both changes are refused in the same way, or both are made. -/
theorem outcomes {α β : Type} {f : α → β} {x y : Except Store.Error α} (same : x.map f = y.map f) :
    (∃ e, x = .error e ∧ y = .error e) ∨ ∃ a b, x = .ok a ∧ y = .ok b ∧ f a = f b := by
  cases x with
  | error e =>
    cases y with
    | error e' => exact .inl ⟨e, rfl, congrArg _ (Except.error.inj same).symm⟩
    | ok b => cases same
  | ok a =>
    cases y with
    | error e => cases same
    | ok b => exact .inr ⟨a, b, rfl, rfl, Except.ok.inj same⟩

/-! ## Transactions that agree -/

/-- The same part of the tables, the same ids to issue, and the same reservations of a project. -/
structure Alike (p : Uuid) (s s' : Transaction × Reservations) : Prop where
  rows : part p s.1.rows = part p s'.1.rows
  issued : s.1.issued = s'.1.issued
  reservations : ∀ key : SubscriptionKey, key.project = p → s.2.lookup key = s'.2.lookup key

namespace Alike

variable {tx tx' : Transaction} {reserved reserved' : Reservations} {committed committed' : Rows}

theorem after (alike : Alike p (tx, reserved) (tx', reserved')) (same : part p rows = part p rows')
    (w w' : Write) : Alike p (tx.after rows w, reserved) (tx'.after rows' w', reserved') where
  rows := same
  issued := congrArg (· + 1) alike.issued
  reservations := alike.reservations

theorem reserve (alike : Alike p (tx, reserved) (tx', reserved')) (key : SubscriptionKey)
    (t : TxId) : Alike p (tx, reserved.reserve key t) (tx', reserved'.reserve key t) where
  rows := alike.rows
  issued := alike.issued
  reservations other own := by
    by_cases same : other = key
    · rw [same, Reservations.lookup_reserve_self, Reservations.lookup_reserve_self]
    · rw [Reservations.lookup_reserve_ne same, Reservations.lookup_reserve_ne same]
      exact alike.reservations other own

theorem addSubscription (alike : Alike p (tx, reserved) (tx', reserved'))
    (same : part p committed = part p committed') {row : Subscription} (own : row.project = p) :
    let result := Transaction.addSubscription t committed row (tx, reserved)
    let result' := Transaction.addSubscription t committed' row (tx', reserved')
    result.1 = result'.1 ∧ Alike p result.2 result'.2 := by
  simp only [Transaction.addSubscription, agree_keyOf alike.rows]
  cases keyed : keyOf tx'.rows row with
  | none =>
    rcases outcomes (agree_addSubscription alike.rows row own) with
      ⟨e, refused, refused'⟩ | ⟨rows, rows', added, added', agree⟩
    · simp only [refused, refused']
      exact ⟨trivial, alike⟩
    · simp only [added, added']
      exact ⟨trivial, alike.after agree _ _⟩
  | some key =>
    have keyOwn : key.project = p := (project_of_keyOf keyed).trans own
    have held : reserved.heldByOther key t = reserved'.heldByOther key t :=
      congrArg (fun u => u.any (· != t)) (alike.reservations key keyOwn)
    simp only [held, agree_hasKey same keyOwn]
    split_ifs
    · exact ⟨rfl, alike⟩
    · rcases outcomes (agree_addSubscription alike.rows row own) with
        ⟨e, refused, refused'⟩ | ⟨rows, rows', added, added', agree⟩
      · simp only [refused, refused']
        exact ⟨trivial, alike⟩
      · simp only [added, added']
        exact ⟨trivial, (alike.reserve key t).after agree _ _⟩

/-- Transactions that agree answer the requests of the project alike. -/
theorem answer {s s' : Transaction × Reservations} (alike : Alike p s s')
    (same : part p committed = part p committed') (within : Within p s.1.rows r) :
    (Transaction.answer t committed r s).1 = (Transaction.answer t committed' r s').1 ∧
      Alike p (Transaction.answer t committed r s).2 (Transaction.answer t committed' r s').2 := by
  obtain ⟨tx, reserved⟩ := s
  obtain ⟨tx', reserved'⟩ := s'
  have rows : part p tx.rows = part p tx'.rows := alike.rows
  have nextId : tx.nextId t = tx'.nextId t :=
    congrArg (RowId.issued (.transaction t)) alike.issued
  cases r with
  | findSubscription project space name =>
    cases within
    exact ⟨congrArg Transaction.found (agree_subscription? rows space name), alike⟩
  | findRuleType project name =>
    cases within
    exact ⟨congrArg Transaction.found (agree_ruleType? rows name), alike⟩
  | findProfile project name =>
    cases within
    exact ⟨congrArg Transaction.found (agree_profile? rows name), alike⟩
  | ensureBundle space name =>
    have sameBundle := agree_bundle? rows space name
    cases found : tx'.rows.bundle? space name with
    | some row =>
      simp only [Transaction.answer, sameBundle, found]
      exact ⟨trivial, alike⟩
    | none =>
      simp only [Transaction.answer, sameBundle, found, nextId]
      refine ⟨trivial, alike.after ?_ _ _⟩
      exact congrArg (Tables.addBundle · ⟨tx'.nextId t, space, name⟩) rows
  | addSubscription project bundle version =>
    simp only [Transaction.answer, nextId]
    exact alike.addSubscription same within
  | putRuleType content =>
    obtain ⟨own, owned⟩ := within
    simp only [Transaction.answer, nextId]
    rcases outcomes (agree_putRuleType rows
      (content.row (tx'.nextId t) content.definition.name) own owned) with
      ⟨e, refused, refused'⟩ | ⟨⟨kept, rows⟩, ⟨kept', rows'⟩, put, put', agree⟩
    · simp only [refused, refused']
      exact ⟨trivial, alike⟩
    · obtain ⟨sameKept, agree⟩ := Prod.mk.inj agree
      simp only [put, put']
      exact ⟨congrArg Except.ok sameKept, alike.after agree _ _⟩
  | addProfile content =>
    obtain ⟨own, owned, -⟩ := within
    simp only [Transaction.answer, nextId]
    rcases outcomes (agree_addProfile rows
      (content.row (tx'.nextId t) content.definition.name) own owned) with
      ⟨e, refused, refused'⟩ | ⟨rows, rows', added, added', agree⟩
    · simp only [refused, refused']
      exact ⟨trivial, alike⟩
    · simp only [added, added']
      exact ⟨trivial, alike.after agree _ _⟩

end Alike

/-! ## States that agree -/

/-- How many ids were issued through a handle. -/
def issued? (m : Memory) : Handle → Option Nat
  | .direct => some m.issued
  | .transaction t => (m.transaction? t).map (·.issued)

/-- States that agree on what concerns a project, seen through a handle. -/
structure Agree (p : Uuid) (h : Handle) (m m' : Memory) : Prop where
  committed : part p m.committed = part p m'.committed
  /-- The handle is there in both states or in neither, and sees the same part of the tables. -/
  view : (m.view? h).map (part p) = (m'.view? h).map (part p)
  /-- The next rows get the same ids. -/
  issued : issued? m h = issued? m' h
  reservations : ∀ key : SubscriptionKey, key.project = p →
    m.reservations.lookup key = m'.reservations.lookup key

namespace Agree

theorem after (agree : Agree p .direct m m') (same : part p rows = part p rows') :
    Agree p .direct (m.after rows) (m'.after rows') where
  committed := same
  view := congrArg some same
  issued := congrArg (Option.map (· + 1)) agree.issued
  reservations := agree.reservations

theorem addSubscription (agree : Agree p .direct m m') {row : Subscription}
    (own : row.project = p) :
    (m.addSubscription row).1 = (m'.addSubscription row).1 ∧
      Agree p .direct (m.addSubscription row).2 (m'.addSubscription row).2 := by
  have held : (keyOf m.committed row).any m.reservations.held =
      (keyOf m'.committed row).any m'.reservations.held := by
    rw [agree_keyOf agree.committed]
    cases keyed : keyOf m'.committed row with
    | none => rfl
    | some key =>
      exact congrArg Option.isSome
        (agree.reservations key ((project_of_keyOf keyed).trans own))
  simp only [Memory.addSubscription, held]
  split_ifs
  · exact ⟨rfl, agree⟩
  · rcases outcomes (agree_addSubscription agree.committed row own) with
      ⟨e, refused, refused'⟩ | ⟨rows, rows', added, added', same⟩
    · simp only [refused, refused']
      exact ⟨trivial, agree⟩
    · simp only [added, added']
      exact ⟨trivial, agree.after same⟩

/-- Stores that agree answer the requests of the project alike. -/
theorem answerDirect (agree : Agree p .direct m m') (within : Within p m.committed r) :
    (Memory.answerDirect r m).1 = (Memory.answerDirect r m').1 ∧
      Agree p .direct (Memory.answerDirect r m).2 (Memory.answerDirect r m').2 := by
  have rows := agree.committed
  have nextId : m.nextId = m'.nextId :=
    congrArg (RowId.issued .direct) (Option.some.inj agree.issued)
  cases r with
  | findSubscription project space name =>
    cases within
    exact ⟨congrArg Transaction.found (agree_subscription? rows space name), agree⟩
  | findRuleType project name =>
    cases within
    exact ⟨congrArg Transaction.found (agree_ruleType? rows name), agree⟩
  | findProfile project name =>
    cases within
    exact ⟨congrArg Transaction.found (agree_profile? rows name), agree⟩
  | ensureBundle space name =>
    have sameBundle := agree_bundle? rows space name
    cases found : m'.committed.bundle? space name with
    | some row =>
      simp only [Memory.answerDirect, sameBundle, found]
      exact ⟨trivial, agree⟩
    | none =>
      simp only [Memory.answerDirect, sameBundle, found, nextId]
      exact ⟨trivial, agree.after (congrArg (Tables.addBundle · ⟨m'.nextId, space, name⟩) rows)⟩
  | addSubscription project bundle version =>
    simp only [Memory.answerDirect, nextId]
    exact agree.addSubscription within
  | putRuleType content =>
    obtain ⟨own, owned⟩ := within
    simp only [Memory.answerDirect, nextId]
    rcases outcomes (agree_putRuleType rows
      (content.row m'.nextId content.definition.name) own owned) with
      ⟨e, refused, refused'⟩ | ⟨⟨kept, rows⟩, ⟨kept', rows'⟩, put, put', same⟩
    · simp only [refused, refused']
      exact ⟨trivial, agree⟩
    · obtain ⟨sameKept, same⟩ := Prod.mk.inj same
      simp only [put, put']
      exact ⟨congrArg Except.ok sameKept, agree.after same⟩
  | addProfile content =>
    obtain ⟨own, owned, -⟩ := within
    simp only [Memory.answerDirect, nextId]
    rcases outcomes (agree_addProfile rows
      (content.row m'.nextId content.definition.name) own owned) with
      ⟨e, refused, refused'⟩ | ⟨rows, rows', added, added', same⟩
    · simp only [refused, refused']
      exact ⟨trivial, agree⟩
    · simp only [added, added']
      exact ⟨trivial, agree.after same⟩

/-- One request of the project is answered alike in states that agree, and they agree afterwards. -/
theorem answer (agree : Agree p h m m')
    (within : ∀ rows, m.view? h = some rows → Within p rows r) :
    (Memory.answer h r m).1 = (Memory.answer h r m').1 ∧
      Agree p h (Memory.answer h r m).2 (Memory.answer h r m').2 := by
  cases h with
  | direct => exact agree.answerDirect (within m.committed rfl)
  | transaction t =>
    cases isOpen : m.transaction? t with
    | none =>
      have closed : m.view? (.transaction t) = none := Option.map_eq_none_iff.mpr isOpen
      have closed' : m'.view? (.transaction t) = none := by
        have same := agree.view
        rw [closed] at same
        exact Option.map_eq_none_iff.mp same.symm
      rw [answer_of_closed closed, answer_of_closed closed']
      exact ⟨rfl, agree⟩
    | some tx =>
      have same := agree.view
      have issued := agree.issued
      simp only [view?, issued?, isOpen, Option.map_some] at same issued
      cases isOpen' : m'.transaction? t with
      | none => simp [isOpen'] at issued
      | some tx' =>
        simp only [isOpen', Option.map_some, Option.some.injEq] at same issued
        have seen : m.view? (.transaction t) = some tx.rows :=
          Option.map_eq_some_iff.mpr ⟨tx, isOpen, rfl⟩
        have alike : Alike p (tx, m.reservations) (tx', m'.reservations) :=
          ⟨same, issued, agree.reservations⟩
        obtain ⟨sameAnswer, alike⟩ := alike.answer (t := t) agree.committed (within _ seen)
        simp only [Memory.answer, isOpen, isOpen']
        refine ⟨sameAnswer, agree.committed, ?_, ?_, alike.reservations⟩
        · change ((m.withTransaction t _).transaction? t |>.map (·.rows)).map (part p) =
            ((m'.withTransaction t _).transaction? t |>.map (·.rows)).map (part p)
          rw [transaction?_withTransaction_self isOpen, transaction?_withTransaction_self isOpen']
          exact congrArg some alike.rows
        · change ((m.withTransaction t _).transaction? t).map (·.issued) =
            ((m'.withTransaction t _).transaction? t).map (·.issued)
          rw [transaction?_withTransaction_self isOpen, transaction?_withTransaction_self isOpen']
          exact congrArg some alike.issued

end Agree

/-! ## Other projects -/

/-- All that belongs to other projects or is seen through other handles stays as it is. -/
structure Spares (p : Uuid) (h : Handle) (m m' : Memory) : Prop where
  /-- No handle sees a change in a row of another project. -/
  rows : ∀ q, q ≠ p → ∀ h', (m'.view? h').map (share q) = (m.view? h').map (share q)
  others : ∀ h', h' ≠ h → m'.view? h' = m.view? h'
  reservations : ∀ key : SubscriptionKey, key.project ≠ p →
    m'.reservations.lookup key = m.reservations.lookup key

theorem Spares.refl (p : Uuid) (h : Handle) (m : Memory) : Spares p h m m :=
  ⟨fun _ _ _ => rfl, fun _ _ => rfl, fun _ _ => rfl⟩

theorem Spares.trans {m'' : Memory} (first : Spares p h m m') (second : Spares p h m' m'') :
    Spares p h m m'' where
  rows q apart h' := (second.rows q apart h').trans (first.rows q apart h')
  others h' apart := (second.others h' apart).trans (first.others h' apart)
  reservations key apart := (second.reservations key apart).trans (first.reservations key apart)

theorem share_effect {q : Uuid} (within : Within p rows r) (apart : q ≠ p)
    (effect : Effect r rows rows') : share q rows' = share q rows := by
  cases effect with
  | same => rfl
  | bundle row => rfl
  | subscription id added => exact share_addSubscription (within.trans_ne apart.symm) added
  | ruleType id put => exact share_putRuleType (within.1.trans_ne apart.symm) put
  | profile id added => exact share_addProfile (within.1.trans_ne apart.symm) added

/-- Only for its own project something is reserved. -/
theorem reservations_transaction {key : SubscriptionKey} (apart : key.project ≠ p)
    {committed : Rows} {tx : Transaction} {reserved : Reservations} (within : Within p tx.rows r) :
    (Transaction.answer t committed r (tx, reserved)).2.2.lookup key = reserved.lookup key := by
  cases r with
  | findSubscription | findRuleType | findProfile => rfl
  | ensureBundle space name =>
    cases found : tx.rows.bundle? space name <;> simp only [Transaction.answer, found]
  | addSubscription project bundle version =>
    simp only [Transaction.answer]
    rcases Transaction.addSubscription_cases t committed ⟨tx.nextId t, project, bundle, version⟩ tx
      reserved with ⟨e, refused⟩ | ⟨taken, rows, keyed, -, -, -, answered⟩
    · rw [refused]
    · have own : taken.project = p := (project_of_keyOf keyed).trans within
      have other : key ≠ taken := fun same => apart (same ▸ own)
      rw [answered]
      exact Reservations.lookup_reserve_ne other
  | putRuleType content =>
    cases put : tx.rows.putRuleType schema
        (content.row (tx.nextId t) content.definition.name) <;>
      simp only [Transaction.answer, put]
  | addProfile content =>
    cases added : tx.rows.addProfile schema
        (content.row (tx.nextId t) content.definition.name) <;>
      simp only [Transaction.answer, added]

theorem reservations_answer {key : SubscriptionKey} (apart : key.project ≠ p)
    (within : ∀ rows, m.view? h = some rows → Within p rows r) :
    (Memory.answer h r m).2.reservations.lookup key = m.reservations.lookup key := by
  cases h with
  | direct => exact congrArg (List.lookup key) (answerDirect_step r m).reservations
  | transaction t =>
    cases isOpen : m.transaction? t with
    | none => simp only [Memory.answer, isOpen]
    | some tx =>
      have within := within tx.rows (Option.map_eq_some_iff.mpr ⟨tx, isOpen, rfl⟩)
      simp only [Memory.answer, isOpen]
      exact reservations_transaction apart within

theorem spares_answer (within : ∀ rows, m.view? h = some rows → Within p rows r) :
    Spares p h m (Memory.answer h r m).2 where
  rows q apart h' := by
    by_cases same : h' = h
    · subst same
      cases view : m.view? h' with
      | none => rw [answer_of_closed view, view]
      | some rows =>
        obtain ⟨rows', view', effect, -⟩ := answer_effect view r
        rw [view']
        exact congrArg some (share_effect (within rows view) apart effect)
    · rw [view?_answer_ne same]
  others _ apart := view?_answer_ne apart
  reservations _ apart := reservations_answer apart within

/-! ## Operations -/

/-- How two runs of a computation compare. -/
structure Apart {α : Type} (p : Uuid) (h : Handle) (script : Script α) (m m' : Memory) : Prop where
  /-- The requests and their answers are the same. -/
  calls : script.transcript (Memory.answer h) m = script.transcript (Memory.answer h) m'
  result : (script.run (Memory.answer h) m).1 = (script.run (Memory.answer h) m').1
  agree : Agree p h (script.run (Memory.answer h) m).2 (script.run (Memory.answer h) m').2
  spares : Spares p h m (script.run (Memory.answer h) m).2
  spares' : Spares p h m' (script.run (Memory.answer h) m').2

/-- Whatever a confined computation does, other projects are spared. -/
theorem spares_run {α : Type} {script : Script α}
    (confined : ∀ rows, m.view? h = some rows → Confined p script rows) :
    Spares p h m (script.run (Memory.answer h) m).2 := by
  induction script generalizing m with
  | done a => exact .refl p h m
  | ask r next ih =>
    have first := spares_answer fun rows view => (confined rows view).1
    exact first.trans (ih _ (Confined.proceed confined))

/-- A confined computation goes the same way in states that agree. -/
theorem apart_run {α : Type} {script : Script α}
    (confined : ∀ rows, m.view? h = some rows → Confined p script rows) (agree : Agree p h m m') :
    script.transcript (Memory.answer h) m = script.transcript (Memory.answer h) m' ∧
      (script.run (Memory.answer h) m).1 = (script.run (Memory.answer h) m').1 ∧
      Agree p h (script.run (Memory.answer h) m).2 (script.run (Memory.answer h) m').2 := by
  induction script generalizing m m' with
  | done a => exact ⟨rfl, rfl, agree⟩
  | ask r next ih =>
    obtain ⟨same, after⟩ := agree.answer fun rows view => (confined rows view).1
    obtain ⟨calls, result, agree⟩ := ih _ (Confined.proceed confined) after
    simp only [Script.transcript, Script.run, ← same]
    exact ⟨congrArg (List.cons _) calls, result, agree⟩

/-- Projects do not interfere: an operation goes the same way in all states that agree on what
concerns its project, and spares all other projects. -/
theorem projects_apart (c : Catalog) (o : Operation) (h : Handle) {m m' : Memory}
    (agree : Agree o.project.id h m m') : Apart o.project.id h (o.script c) m m' := by
  have confined : ∀ m : Memory, ∀ rows, m.view? h = some rows →
      Confined o.project.id (o.script c) rows := fun _ rows _ => o.confined c rows
  obtain ⟨calls, result, agree⟩ := apart_run (confined m) agree
  exact ⟨calls, result, agree, spares_run (confined m), spares_run (confined m')⟩

/-- A store in which other projects have subscribed to the bundle, or are about to. -/
private def busy : Memory := empty.run
  [.ask .direct (.ensureBundle "stacklok" "healthcheck"), .begin 1,
    .ask (.transaction 1) (.addSubscription ⟨2⟩ (.issued .direct 0) "1.0.0"), .commit 1, .begin 2,
    .ask (.transaction 2) (.addSubscription ⟨3⟩ (.issued .direct 0) "1.0.0"), .begin 0]

/-- A store that only knows the bundle. -/
private def quiet : Memory := empty.run
  [.ask .direct (.ensureBundle "stacklok" "healthcheck"), .begin 0]

/-- A catalog of one bundle with one rule type. -/
private def smallCatalog : Catalog :=
  .routed [(⟨"stacklok", "healthcheck"⟩, ⟨"source", .ok [], fun _ => .ok
    ⟨⟨"stacklok", "healthcheck", "1.0.0", none⟩, fun name => .error (.noProfile name),
      [.ok { RuleType.named "r1" with definition := .object [] }]⟩⟩)]

/-- The first project subscribes to the bundle. -/
private def smallSubscribe : Script (Except Catalog.Error Unit) :=
  smallCatalog.subscribe ⟨⟨1⟩, ⟨⟨9⟩, "github"⟩⟩ ⟨"stacklok", "healthcheck"⟩

theorem projects_apart_busy :
    Agree ⟨1⟩ (.transaction 0) busy quiet ∧
      Apart ⟨1⟩ (.transaction 0) smallSubscribe busy quiet ∧
      (smallSubscribe.run (Memory.answer (.transaction 0)) busy).1 = .ok () ∧
      ∃ rows, (smallSubscribe.run (Memory.answer (.transaction 0)) busy).2.view?
        (.transaction 0) = some rows ∧ rows.ruleTypes.map ContentRow.name = ["r1"] := by
  have agree : Agree ⟨1⟩ (.transaction 0) busy quiet := by
    refine ⟨rfl, rfl, rfl, fun key own => ?_⟩
    have apart : key ≠ ⟨⟨3⟩, "stacklok", "healthcheck"⟩ := by
      rintro rfl
      exact absurd own (by decide)
    change List.lookup key [(⟨⟨3⟩, "stacklok", "healthcheck"⟩, 2)] = none
    simp [List.lookup_cons, beq_false_of_ne apart]
  have apart := projects_apart smallCatalog
    (.subscribe ⟨⟨1⟩, ⟨⟨9⟩, "github"⟩⟩ ⟨"stacklok", "healthcheck"⟩) (.transaction 0) agree
  exact ⟨agree, apart, rfl, _, rfl, rfl⟩

end RuleCatalog.Subscribing
