import RuleCatalog.Proofs.Subscribing.Workload

/-! # Rule types that are taken over

Whether a rule type is in the way of a bundle is looked up in the tables on which the transaction
began, but what the transaction has put is replayed on the tables as they are by then. A rule type
that comes in between, from another subscription or from none, is replaced by the one of the bundle,
and no commit fails because of it. This is the only case: all other rule types stay as they are.
-/

namespace RuleCatalog.Subscribing

open Store Store.Memory

/-- All rule types stay as they are that do not belong to a subscription of the transaction. -/
def LeavesForeign (old : Rows) (tx : Transaction) (new : Rows) : Prop :=
  ∀ r ∈ old.ruleTypes, (∀ s ∈ subscriptionsOf tx.log, r.subscription ≠ some s.id) →
    r ∈ new.ruleTypes

/-- What a commit makes of the committed rule types, for a transaction that began on the tables
`start`. -/
structure Installed (start old : Rows) (tx : Transaction) (new : Rows) : Prop where
  /-- Foreign rule types stay as they are exactly if there are none in the places of the log. -/
  leaves_iff : LeavesForeign old tx new ↔
    ∀ w ∈ ruleTypesOf tx.log, old.ruleType? w.project w.name = none
  /-- There were none in these places when the transaction began. -/
  free : ∀ w ∈ ruleTypesOf tx.log, start.ruleType? w.project w.name = none
  /-- What was there by then stays. -/
  settled : ∀ r ∈ old.ruleTypes, start.ruleType? r.project r.name ≠ none → r ∈ new.ruleTypes
  /-- What came in between stays as well, if the log puts nothing in its place. -/
  kept : ∀ r ∈ old.ruleTypes, lastWrite tx.log r.place = none → r ∈ new.ruleTypes
  /-- Else it is replaced, and passes to a subscription to which it did not belong. -/
  replaced : ∀ r ∈ old.ruleTypes, ∀ w, lastWrite tx.log r.place = some w →
    { w with id := r.id } ∈ new.ruleTypes ∧
      ∃ s ∈ subscriptionsOf tx.log, w.subscription = some s.id ∧ r.subscription ≠ some s.id

section Merged

variable {start old new : Rows} {t : TxId} {tx : Transaction} {redirection : Redirection}

/-- No committed rule type belongs to a subscription that a transaction has only added. -/
theorem foreign_of_committed (intact : old.Intact) (below : old.IssuedBelow (.transaction t) 0)
    (history : Transaction.History t start tx) :
    ∀ r ∈ old.ruleTypes, ∀ s ∈ subscriptionsOf tx.log, r.subscription ≠ some s.id := by
  intro r member s added own
  obtain ⟨row, committed, same⟩ := List.mem_map.mp
    (Tables.linked_iff.mp (intact.ruleTypeSubscriptions r member) s.id own)
  obtain ⟨n, -, issued⟩ := history.issued_subscriptions s added
  exact Nat.not_lt_zero n (below.subscriptions row committed n (same.trans issued))

theorem landed_of_place (intact : old.Intact) {r w : ContentRow RuleType}
    (member : r ∈ old.ruleTypes) (same : w.place = r.place) :
    landed old w = { w with id := r.id } := by
  have found : old.ruleType? w.project w.name = some r :=
    intact.ruleType?_eq_some_iff.mpr ⟨member, same.symm⟩
  simp only [landed, found, Option.map_some, Option.getD_some]

theorem installed_of_merged (merged : Merged old tx new redirection) (intact : old.Intact)
    (below : old.IssuedBelow (.transaction t) 0) (history : Transaction.History t start tx)
    (guarded : Guarded start tx.log) : Installed start old tx new := by
  have kept : ∀ r ∈ old.ruleTypes, lastWrite tx.log r.place = none → r ∈ new.ruleTypes :=
    fun r member unwritten => (merged.ruleTypes r).mpr (.inl ⟨member, unwritten⟩)
  have foreign := foreign_of_committed intact below history
  constructor
  · constructor
    · intro leaves w written
      by_contra taken
      obtain ⟨r, found⟩ := Option.ne_none_iff_exists'.mp taken
      obtain ⟨member, place⟩ := intact.ruleType?_eq_some_iff.mp found
      obtain ⟨last, isLast⟩ : ∃ last, lastWrite tx.log r.place = some last :=
        place ▸ exists_lastWrite written
      -- a row that has stayed would be the one that was put in its place
      rcases (merged.ruleTypes r).mp (leaves r member (foreign r member)) with
        ⟨-, unwritten⟩ | ⟨put, isPut, same⟩
      · exact Option.some_ne_none last (isLast.symm.trans unwritten)
      · obtain ⟨s, added, own⟩ := guarded.own put (mem_of_lastWrite isPut)
        have passed : r.subscription = put.subscription := congrArg (·.subscription) same
        exact foreign r member s added (passed.trans own)
    · intro vacant r member _
      have found : old.ruleType? r.project r.name = some r :=
        intact.ruleType?_eq_some_iff.mpr ⟨member, rfl⟩
      exact kept r member (lastWrite_eq_none vacant (found ▸ Option.some_ne_none r))
  · exact guarded.free
  · intro r member taken
    exact kept r member (lastWrite_eq_none guarded.free taken)
  · exact kept
  · intro r member w last
    have place : w.place = r.place := place_of_lastWrite last
    constructor
    · rw [← landed_of_place intact member place]
      exact (merged.ruleTypes _).mpr (.inr ⟨w, place ▸ last, rfl⟩)
    · obtain ⟨s, added, own⟩ := guarded.own w (mem_of_lastWrite last)
      exact ⟨s, added, own, foreign r member s added⟩

end Merged

namespace Workload

/-- A commit of a transaction that subscribes always succeeds. It leaves foreign rule types as they
are exactly if none has come in the way since the transaction began. -/
theorem commit_leaves_foreign_iff (events : List Event) {t : TxId} {tx : Transaction}
    (isOpen : (run events).memory.transaction? t = some tx) :
    ∃ start m', Began events t start ∧ (run events).memory.commit t = (.ok (), m') ∧
      Installed start (run events).memory.committed tx m'.committed := by
  have orderly := orderly_run events
  obtain ⟨start, began, supervised⟩ := orderly.supervised t tx isOpen
  rcases orderly.sound.commit_cases isOpen with
    ⟨⟨p, added, -⟩, -⟩ | ⟨-, rows, redirection, merged, ended⟩
  · exact (List.not_mem_nil (supervised.guarded.noProfiles ▸ added)).elim
  · exact ⟨start, _, began, ended, installed_of_merged merged orderly.sound.intact
      (orderly.sound.unissued_of_open isOpen) supervised.history supervised.guarded⟩

/-! ## A rule type that comes in between -/

private def ruleType (definition : String) : RuleType :=
  ⟨"v1", "r1", none, "", "", .unknown, .string definition⟩

private def catalog : Catalog := .routed [(⟨"s", "b"⟩, {
  description := "source"
  ids := .ok [⟨"s", "b"⟩]
  fetch := fun _ => .ok ⟨⟨"s", "b", "1.0.0", none⟩, fun name => .error (.noProfile name),
    [.ok (ruleType "bundle")]⟩ })]

/-- While a transaction subscribes a project, a rule type of the same name is made by hand. -/
private def madeByHand : List Event :=
  [.begin 0, .subscribe 0 catalog ⟨⟨1⟩, ⟨⟨2⟩, "p"⟩⟩ ⟨"s", "b"⟩, .proceed 0, .proceed 0, .proceed 0,
    .proceed 0, .proceed 0, .direct (.putRuleType ⟨⟨1⟩, ⟨3⟩, none, ruleType "hand"⟩)]

theorem commit_leaves_foreign_iff_madeByHand :
    ∃ tx start m', (run madeByHand).memory.transaction? 0 = some tx ∧ Began madeByHand 0 start ∧
      (run madeByHand).memory.commit 0 = (.ok (), m') ∧
      Installed start (run madeByHand).memory.committed tx m'.committed := by
  obtain ⟨start, m', began, ended, installed⟩ := commit_leaves_foreign_iff (t := 0) madeByHand rfl
  exact ⟨_, start, m', rfl, began, ended, installed⟩

/-- The rule type that was made by hand belongs to the subscription then. -/
theorem commit_takes_over_foreign : ¬ ∀ events t tx,
    (run events).memory.transaction? t = some tx →
      LeavesForeign (run events).memory.committed tx ((run events).memory.commit t).2.committed := by
  intro leaves
  have stays := leaves madeByHand 0 _ rfl
    (NewContent.row ⟨⟨1⟩, ⟨3⟩, none, ruleType "hand"⟩ (.issued .direct 0) "r1") (.head _)
    fun s _ same => Option.some_ne_none _ same.symm
  have own : ∀ r ∈ ((run madeByHand).memory.commit 0).2.committed.ruleTypes,
      r.subscription = some (.issued (.transaction 0) 1) := by
    intro r member
    rw [List.mem_singleton.mp member]
    rfl
  exact Option.some_ne_none _ (own _ stays).symm

end Workload

end RuleCatalog.Subscribing
