import RuleCatalog.Catalog
import RuleCatalog.Proofs.Store.Run

/-! # What subscribing writes

Subscribing looks before it writes. In a transaction, a rule type is put only into a place where
there was none when the transaction began, and always for a subscription that the same transaction
has added. `Careful` says this of a computation whatever it is answered and whatever else happens to
the transaction in between, and `answer_guarded` says that the log of a transaction bears it out.
-/

namespace RuleCatalog.Subscribing

open Store Store.Memory

/-! ## Requests and answers -/

/-- What may be asked of a transaction that began on the tables `start` and has come to `log`. -/
def Permitted (start : Rows) (log : List Write) : Request → Prop
  | .putRuleType content =>
    start.ruleType? content.project content.definition.name = none ∧
      ∃ s ∈ subscriptionsOf log, content.subscription = some s.id
  | .addProfile _ => False
  | _ => True

/-- What an answer says about a transaction that began on the tables `start` and has come to `log`:
an added subscription is in the log, and a rule type that is missing or belongs to such a
subscription was not there in the beginning. -/
def Tells (start : Rows) (log : List Write) : (r : Request) → Except Store.Error r.Answer → Prop
  | .addSubscription .., .ok row => row ∈ subscriptionsOf log
  | .findRuleType project name, .ok there =>
    (∃ s ∈ subscriptionsOf log, there.subscription = some s.id) →
      start.ruleType? project name = none
  | .findRuleType project name, .error .notFound => start.ruleType? project name = none
  | _, _ => True

/-- A computation that only asks for what is permitted. -/
def Careful {α : Type} (start : Rows) : Script α → List Write → Prop
  | .done _, _ => True
  | .ask r next, log => Permitted start log r ∧
    ∀ answer log', log <+: log' → Tells start log' r answer → Careful start (next answer) log'

variable {start : Rows} {log log' : List Write}

theorem subscriptionsOf_subset (grown : log <+: log') : subscriptionsOf log ⊆ subscriptionsOf log' :=
  (grown.filterMap _).subset

theorem Permitted.mono {r : Request} (permitted : Permitted start log r) (grown : log <+: log') :
    Permitted start log' r := by
  cases r with
  | putRuleType content =>
    obtain ⟨free, s, member, own⟩ := permitted
    exact ⟨free, s, subscriptionsOf_subset grown member, own⟩
  | addProfile => exact permitted
  | findSubscription | ensureBundle | addSubscription | findRuleType | findProfile => trivial

namespace Careful

variable {α β : Type} {script : Script α}

theorem mono (careful : Careful start script log) (grown : log <+: log') :
    Careful start script log' := by
  cases script with
  | done => trivial
  | ask r next =>
    exact ⟨careful.1.mono grown, fun answer log'' more => careful.2 answer log'' (grown.trans more)⟩

theorem andThen {f : α → Script β} (careful : Careful start script log)
    (rest : ∀ a log', log <+: log' → Careful start (f a) log') :
    Careful start (script.andThen f) log := by
  induction script generalizing log with
  | done a => exact rest a log List.prefix_rfl
  | ask r next ih =>
    exact ⟨careful.1, fun answer log' grown tells => ih answer (careful.2 answer log' grown tells)
      fun a log'' more => rest a log'' (grown.trans more)⟩

end Careful

/-! ## Subscribing is careful -/

section Steps

variable {project : Project} {subscription : RowId} {r : RuleType}

theorem careful_writeRuleType (free : start.ruleType? project.id r.name = none)
    (own : ∃ s ∈ subscriptionsOf log, s.id = subscription) :
    Careful start (Service.writeRuleType project.id project.provider subscription r) log := by
  obtain ⟨s, member, rfl⟩ := own
  constructor
  · exact ⟨free, s, member, rfl⟩
  · intro answer log' _ _
    cases answer <;> trivial

theorem careful_installRuleType (own : ∃ s ∈ subscriptionsOf log, s.id = subscription) :
    Careful start (Service.installRuleType project.id project.provider subscription r) log := by
  unfold Service.installRuleType
  cases Service.checkRuleType r with
  | error e => trivial
  | ok =>
    refine ⟨trivial, fun answer log' grown tells => ?_⟩
    obtain ⟨s, member, isOwn⟩ := own
    have own' : ∃ s ∈ subscriptionsOf log', s.id = subscription :=
      ⟨s, subscriptionsOf_subset grown member, isOwn⟩
    cases answer with
    | error e =>
      cases e with
      | notFound => exact careful_writeRuleType tells own'
      | unique | foreignKey | backend => trivial
    | ok there =>
      by_cases foreign : there.subscription ≠ some subscription
      · simp only [if_pos foreign]
        trivial
      · -- the rule type is there already, but it is there because of this subscription
        have owned : there.subscription = some subscription := not_not.mp foreign
        have free : start.ruleType? project.id r.name = none :=
          tells ⟨s, subscriptionsOf_subset grown member, isOwn ▸ owned⟩
        simp only [if_neg foreign]
        split
        · trivial
        · exact careful_writeRuleType free own'

theorem careful_installAll {ruleTypes : List (Except Bundle.Error RuleType)}
    (own : ∃ s ∈ subscriptionsOf log, s.id = subscription) :
    Careful start (installAll project subscription ruleTypes) log := by
  induction ruleTypes generalizing log with
  | nil => trivial
  | cons first rest ih =>
    cases first with
    | error e => trivial
    | ok r =>
      apply (careful_installRuleType own).andThen
      intro outcome log' grown
      cases outcome with
      | error e => trivial
      | ok =>
        obtain ⟨s, member, isOwn⟩ := own
        exact ih ⟨s, subscriptionsOf_subset grown member, isOwn⟩

theorem careful_subscribe {o : Offering} : Careful start (subscribe project o) log := by
  refine ⟨trivial, fun answer log _ _ => ?_⟩
  cases answer with
  | ok => trivial
  | error e =>
    cases e with
    | unique | foreignKey | backend => trivial
    | notFound =>
      refine ⟨trivial, fun answer log _ _ => ?_⟩
      cases answer with
      | error e => trivial
      | ok bundle =>
        refine ⟨trivial, fun answer log _ tells => ?_⟩
        cases answer with
        | error e => trivial
        | ok row => exact careful_installAll ⟨row, tells, rfl⟩

theorem careful_catalog {c : Catalog} {id : BundleId} :
    Careful start (c.subscribe project id) log := by
  cases c with
  | unused => trivial
  | routed routes =>
    simp only [Catalog.subscribe]
    cases Catalog.resolve routes id with
    | error e => trivial
    | ok o => exact careful_subscribe.andThen fun _ _ _ => trivial

end Steps

/-! ## Transactions that are only asked for what is permitted -/

/-- A log as it comes from subscribing. -/
structure Guarded (start : Rows) (log : List Write) : Prop where
  noProfiles : profilesOf log = []
  free : ∀ w ∈ ruleTypesOf log, start.ruleType? w.project w.name = none
  own : ∀ w ∈ ruleTypesOf log, ∃ s ∈ subscriptionsOf log, w.subscription = some s.id

namespace Guarded

theorem nil : Guarded start [] := by constructor <;> simp [profilesOf, ruleTypesOf]

theorem bundle (guarded : Guarded start log) (row : BundleRow) :
    Guarded start (log ++ [.bundle row]) := by
  constructor
  · simpa [Write.profile?] using guarded.noProfiles
  · simpa [Write.ruleType?] using guarded.free
  · simpa [Write.ruleType?, Write.subscription?] using guarded.own

theorem subscription (guarded : Guarded start log) (row : Subscription) :
    Guarded start (log ++ [.subscription row]) := by
  constructor
  · simpa [Write.profile?] using guarded.noProfiles
  · simpa [Write.ruleType?] using guarded.free
  · intro w member
    obtain ⟨s, staged, own⟩ := guarded.own w (by simpa [Write.ruleType?] using member)
    exact ⟨s, subscriptionsOf_subset (List.prefix_append ..) staged, own⟩

theorem ruleType (guarded : Guarded start log) {row : ContentRow RuleType}
    (free : start.ruleType? row.project row.name = none)
    (own : ∃ s ∈ subscriptionsOf log, row.subscription = some s.id) :
    Guarded start (log ++ [.ruleType row]) := by
  constructor
  · simpa [Write.profile?] using guarded.noProfiles
  · simpa [Write.ruleType?, or_imp, forall_and] using ⟨guarded.free, free⟩
  · simpa [Write.ruleType?, Write.subscription?, or_imp, forall_and] using ⟨guarded.own, own⟩

end Guarded

/-- What is put in a place where nothing was in the beginning is told apart from what was there by
the subscription to which it belongs. -/
theorem free_of_own {t : TxId} {tx : Transaction} (history : Transaction.History t start tx)
    (intact : start.Intact) (below : start.IssuedBelow (.transaction t) 0)
    (guarded : Guarded start tx.log) {there : ContentRow RuleType} {project : Uuid} {name : String}
    (found : tx.rows.ruleType? project name = some there)
    (own : ∃ s ∈ subscriptionsOf tx.log, there.subscription = some s.id) :
    start.ruleType? project name = none := by
  obtain ⟨present, place⟩ := (history.intact intact below).ruleType?_eq_some_iff.mp found
  rcases (history.mem_ruleTypes intact.ruleTypePlaces).mp present with ⟨old, -⟩ | last
  · obtain ⟨s, staged, isOwn⟩ := own
    obtain ⟨row, known, same⟩ := List.mem_map.mp
      (Tables.linked_iff.mp (intact.ruleTypeSubscriptions there old) s.id isOwn)
    obtain ⟨n, -, issued⟩ := history.issued_subscriptions s staged
    exact (Nat.not_lt_zero n (below.subscriptions row known n (same.trans issued))).elim
  · have free := guarded.free there (mem_of_lastWrite last)
    obtain ⟨rfl, rfl⟩ := Prod.mk.inj place
    exact free

/-- The answer to a permitted request is as `Tells` says, and the log stays guarded. -/
theorem answer_guarded {t : TxId} {tx : Transaction} (committed : Rows)
    (reservations : Reservations) (history : Transaction.History t start tx)
    (intact : start.Intact) (below : start.IssuedBelow (.transaction t) 0)
    (guarded : Guarded start tx.log) {r : Request} (permitted : Permitted start tx.log r) :
    let result := Transaction.answer t committed r (tx, reservations)
    tx.log <+: result.2.1.log ∧ Guarded start result.2.1.log ∧
      Tells start result.2.1.log r result.1 := by
  cases r with
  | findSubscription | findProfile => exact ⟨List.prefix_rfl, guarded, trivial⟩
  | addProfile => exact permitted.elim
  | findRuleType project name =>
    refine ⟨List.prefix_rfl, guarded, ?_⟩
    cases found : tx.rows.ruleType? project name with
    | some there =>
      simp only [Transaction.answer, found, Transaction.found]
      exact free_of_own history intact below guarded found
    | none =>
      simp only [Transaction.answer, found, Transaction.found]
      exact history.keeps.ruleType?_eq_none found
  | ensureBundle space name =>
    cases found : tx.rows.bundle? space name with
    | some row =>
      simp only [Transaction.answer, found]
      exact ⟨List.prefix_rfl, guarded, trivial⟩
    | none =>
      simp only [Transaction.answer, found, Transaction.after]
      exact ⟨List.prefix_append .., guarded.bundle _, trivial⟩
  | addSubscription project bundle version =>
    rcases Transaction.addSubscription_cases t committed
      ⟨tx.nextId t, project, bundle, version⟩ tx reservations with
      ⟨e, refused⟩ | ⟨key, rows, -, -, -, -, answered⟩
    · simp only [Transaction.answer, refused]
      exact ⟨List.prefix_rfl, guarded, trivial⟩
    · simp only [Transaction.answer, answered, Transaction.after]
      refine ⟨List.prefix_append .., guarded.subscription _, ?_⟩
      simp [Tells, Write.subscription?]
  | putRuleType content =>
    cases put : tx.rows.putRuleType schema
        (content.row (tx.nextId t) content.definition.name) with
    | error e =>
      simp only [Transaction.answer, put]
      exact ⟨List.prefix_rfl, guarded, trivial⟩
    | ok result =>
      simp only [Transaction.answer, put, Transaction.after]
      obtain ⟨kept, rows⟩ := result
      obtain ⟨-, rfl, -⟩ := Tables.putRuleType_eq_ok_iff.mp put
      rw [Tables.putRow_fst]
      exact ⟨List.prefix_append .., guarded.ruleType permitted.1 permitted.2, trivial⟩

end RuleCatalog.Subscribing
