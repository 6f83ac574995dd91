import RuleCatalog.Proofs.Store.Keys

/-! # What a transaction has done

The rows that a transaction sees and its log grow together, one write at a time, from the tables as
they were when it began. A `History` is the record of that growth. It determines the rows from the
log, and it keeps the rules of the tables, since the transaction gives its rows ids of its own.
-/

namespace RuleCatalog.Store.Memory

/-! ## Logs -/

namespace Write

def bundle? : Write → Option BundleRow
  | .bundle row => some row
  | _ => none

def subscription? : Write → Option Subscription
  | .subscription row => some row
  | _ => none

def ruleType? : Write → Option (ContentRow RuleType)
  | .ruleType row => some row
  | _ => none

def profile? : Write → Option (ContentRow Profile)
  | .profile row => some row
  | _ => none

end Write

variable {log : List Write} {w : Write}

/-- The bundles that a log adds. -/
def bundlesOf (log : List Write) : List BundleRow := log.filterMap Write.bundle?

/-- The subscriptions that a log adds. -/
def subscriptionsOf (log : List Write) : List Subscription := log.filterMap Write.subscription?

/-- The rule types that a log puts, in order. -/
def ruleTypesOf (log : List Write) : List (ContentRow RuleType) := log.filterMap Write.ruleType?

/-- The profiles that a log adds. -/
def profilesOf (log : List Write) : List (ContentRow Profile) := log.filterMap Write.profile?

/-- The rule type that a log puts last into a place. -/
def lastWrite (log : List Write) (place : Uuid × String) : Option (ContentRow RuleType) :=
  (ruleTypesOf log).reverse.find? (·.isAt place.1 place.2)

@[simp] theorem bundlesOf_concat : bundlesOf (log ++ [w]) = bundlesOf log ++ w.bundle?.toList := by
  cases w <;> simp [bundlesOf, Write.bundle?]

@[simp] theorem subscriptionsOf_concat :
    subscriptionsOf (log ++ [w]) = subscriptionsOf log ++ w.subscription?.toList := by
  cases w <;> simp [subscriptionsOf, Write.subscription?]

@[simp] theorem ruleTypesOf_concat :
    ruleTypesOf (log ++ [w]) = ruleTypesOf log ++ w.ruleType?.toList := by
  cases w <;> simp [ruleTypesOf, Write.ruleType?]

@[simp] theorem profilesOf_concat :
    profilesOf (log ++ [w]) = profilesOf log ++ w.profile?.toList := by
  cases w <;> simp [profilesOf, Write.profile?]

private theorem lastWrite_concat_of_other (other : w.ruleType? = none) :
    lastWrite (log ++ [w]) = lastWrite log := by
  funext place
  simp [lastWrite, other]

@[simp] theorem lastWrite_concat_bundle {row : BundleRow} :
    lastWrite (log ++ [.bundle row]) = lastWrite log := lastWrite_concat_of_other rfl

@[simp] theorem lastWrite_concat_subscription {row : Subscription} :
    lastWrite (log ++ [.subscription row]) = lastWrite log := lastWrite_concat_of_other rfl

@[simp] theorem lastWrite_concat_profile {row : ContentRow Profile} :
    lastWrite (log ++ [.profile row]) = lastWrite log := lastWrite_concat_of_other rfl

theorem lastWrite_concat_of_place {row : ContentRow RuleType} :
    lastWrite (log ++ [.ruleType row]) row.place = some row := by
  have here : row.isAt row.place.1 row.place.2 = true := ContentRow.isAt_iff.mpr rfl
  simp [lastWrite, Write.ruleType?, here]

theorem lastWrite_concat_of_ne {row : ContentRow RuleType} {place : Uuid × String}
    (apart : row.place ≠ place) : lastWrite (log ++ [.ruleType row]) place = lastWrite log place := by
  have elsewhere : row.isAt place.1 place.2 = false :=
    Bool.eq_false_iff.mpr fun here => apart (ContentRow.isAt_iff.mp here)
  simp [lastWrite, Write.ruleType?, elsewhere]

theorem place_of_lastWrite {place : Uuid × String} {row : ContentRow RuleType}
    (last : lastWrite log place = some row) : row.place = place :=
  ContentRow.place_of_found last

theorem mem_of_lastWrite {place : Uuid × String} {row : ContentRow RuleType}
    (last : lastWrite log place = some row) : row ∈ ruleTypesOf log :=
  List.mem_reverse.mp (List.mem_of_find?_eq_some last)

theorem exists_lastWrite {row : ContentRow RuleType} (member : row ∈ ruleTypesOf log) :
    ∃ last, lastWrite log row.place = some last :=
  Option.isSome_iff_exists.mp (List.find?_isSome.mpr
    ⟨row, List.mem_reverse.mpr member, ContentRow.isAt_iff.mpr rfl⟩)

/-- A log leaves a place alone that is taken if it only puts something where nothing is. -/
theorem lastWrite_eq_none {rows : Rows}
    (free : ∀ w ∈ ruleTypesOf log, rows.ruleType? w.project w.name = none) {r : ContentRow RuleType}
    (taken : rows.ruleType? r.project r.name ≠ none) : lastWrite log r.place = none := by
  by_contra written
  obtain ⟨w, last⟩ := Option.ne_none_iff_exists'.mp written
  obtain ⟨project, name⟩ := Prod.mk.inj (place_of_lastWrite last)
  exact taken (project ▸ name ▸ free w (mem_of_lastWrite last))

/-! ## Histories -/

namespace Transaction

/-- The keys of the subscriptions that a transaction has added. -/
def staged (tx : Transaction) : List (Option SubscriptionKey) :=
  (subscriptionsOf tx.log).map (keyOf tx.rows)

/-- What a transaction can have done since it began on the tables `s`. -/
inductive History (t : TxId) (s : Rows) : Transaction → Prop
  | start : History t s (.start s)
  | bundle {tx : Transaction} {space name : String} (history : History t s tx)
      (absent : tx.rows.bundle? space name = none) :
      History t s (tx.after (tx.rows.addBundle ⟨tx.nextId t, space, name⟩)
        (.bundle ⟨tx.nextId t, space, name⟩))
  | subscription {tx : Transaction} {project : Uuid} {bundle : RowId} {version : String}
      {rows : Rows} (history : History t s tx)
      (added : tx.rows.addSubscription schema ⟨tx.nextId t, project, bundle, version⟩ = .ok rows) :
      History t s (tx.after rows (.subscription ⟨tx.nextId t, project, bundle, version⟩))
  | ruleType {tx : Transaction} {content : NewContent RuleType} {kept : ContentRow RuleType}
      {rows : Rows} (history : History t s tx)
      (put : tx.rows.putRuleType schema (content.row (tx.nextId t) content.definition.name) =
        .ok (kept, rows)) :
      History t s (tx.after rows (.ruleType kept))
  | profile {tx : Transaction} {content : NewContent Profile} {rows : Rows}
      (history : History t s tx)
      (added : tx.rows.addProfile schema (content.row (tx.nextId t) content.definition.name) =
        .ok rows) :
      History t s (tx.after rows (.profile (content.row (tx.nextId t) content.definition.name)))

/-- An id that a transaction has given out. -/
def Issued (t : TxId) (tx : Transaction) (id : RowId) : Prop :=
  ∃ n < tx.issued, id = .issued (.transaction t) n

theorem Issued.after {t : TxId} {tx : Transaction} {id : RowId} (issued : Issued t tx id)
    (rows : Rows) (w : Write) : Issued t (tx.after rows w) id := by
  obtain ⟨n, less, same⟩ := issued
  exact ⟨n, Nat.lt_succ_of_lt less, same⟩

theorem Issued.lt {t : TxId} {tx : Transaction} {id : RowId} (issued : Issued t tx id) {n : Nat}
    (same : id = .issued (.transaction t) n) : n < tx.issued := by
  obtain ⟨k, less, known⟩ := issued
  cases known.symm.trans same
  exact less

theorem issued_nextId (t : TxId) (tx : Transaction) (rows : Rows) (w : Write) :
    Issued t (tx.after rows w) (tx.nextId t) :=
  ⟨tx.issued, Nat.lt_succ_self _, rfl⟩

namespace History

variable {t : TxId} {s : Rows} {tx : Transaction}

/-! ### The rows and the log -/

private theorem rows_of_log (history : History t s tx) :
    tx.rows.bundles = s.bundles ++ bundlesOf tx.log ∧
      tx.rows.subscriptions = s.subscriptions ++ subscriptionsOf tx.log ∧
      tx.rows.profiles = s.profiles ++ profilesOf tx.log := by
  induction history with
  | start => simp [Transaction.start, bundlesOf, subscriptionsOf, profilesOf]
  | bundle _ _ ih =>
    simp [Transaction.after, Tables.addBundle, Write.bundle?, Write.subscription?, Write.profile?, ih]
  | subscription _ added ih =>
    obtain ⟨-, -, rfl⟩ := Tables.addSubscription_eq_ok_iff.mp added
    simp [Transaction.after, Write.bundle?, Write.subscription?, Write.profile?, ih]
  | ruleType _ put ih =>
    obtain ⟨-, -, rfl⟩ := Tables.putRuleType_eq_ok_iff.mp put
    simp [Transaction.after, Write.bundle?, Write.subscription?, Write.profile?, ih]
  | profile _ added ih =>
    obtain ⟨-, -, rfl⟩ := Tables.addProfile_eq_ok_iff.mp added
    simp [Transaction.after, Write.bundle?, Write.subscription?, Write.profile?, ih]

theorem bundles (history : History t s tx) :
    tx.rows.bundles = s.bundles ++ bundlesOf tx.log := history.rows_of_log.1

theorem subscriptions (history : History t s tx) :
    tx.rows.subscriptions = s.subscriptions ++ subscriptionsOf tx.log := history.rows_of_log.2.1

theorem profiles (history : History t s tx) :
    tx.rows.profiles = s.profiles ++ profilesOf tx.log := history.rows_of_log.2.2

theorem keeps (history : History t s tx) : s.Keeps tx.rows := by
  induction history with
  | start => exact .refl s
  | bundle _ _ ih => exact ih.trans (.addBundle ..)
  | subscription _ added ih => exact ih.trans (.addSubscription added)
  | ruleType _ put ih => exact ih.trans (.putRuleType put)
  | profile _ added ih => exact ih.trans (.addProfile added)

theorem issued_bundles (history : History t s tx) : ∀ b ∈ bundlesOf tx.log, Issued t tx b.id := by
  induction history with
  | start => simp [Transaction.start, bundlesOf]
  | bundle _ _ ih =>
    simp only [Transaction.after, bundlesOf_concat, Write.bundle?, Option.toList_some,
      List.mem_append, List.mem_singleton]
    rintro b (old | rfl)
    · exact (ih b old).after _ _
    · exact issued_nextId ..
  | subscription _ _ ih | ruleType _ _ ih | profile _ _ ih =>
    simpa [Transaction.after, Write.bundle?] using fun b member => (ih b member).after _ _

theorem issued_subscriptions (history : History t s tx) :
    ∀ row ∈ subscriptionsOf tx.log, Issued t tx row.id := by
  induction history with
  | start => simp [Transaction.start, subscriptionsOf]
  | subscription _ _ ih =>
    simp only [Transaction.after, subscriptionsOf_concat, Write.subscription?, Option.toList_some,
      List.mem_append, List.mem_singleton]
    rintro row (old | rfl)
    · exact (ih row old).after _ _
    · exact issued_nextId ..
  | bundle _ _ ih | ruleType _ _ ih | profile _ _ ih =>
    simpa [Transaction.after, Write.subscription?] using fun row member => (ih row member).after _ _

/-- A rule type of the rows is one that was there before and not replaced, or the last one that was
put into its place. -/
theorem mem_ruleTypes (history : History t s tx) (intact : (s.ruleTypes.map ContentRow.place).Nodup)
    {r : ContentRow RuleType} :
    r ∈ tx.rows.ruleTypes ↔
      r ∈ s.ruleTypes ∧ lastWrite tx.log r.place = none ∨ lastWrite tx.log r.place = some r := by
  suffices (tx.rows.ruleTypes.map ContentRow.place).Nodup ∧ ∀ r, r ∈ tx.rows.ruleTypes ↔
      r ∈ s.ruleTypes ∧ lastWrite tx.log r.place = none ∨ lastWrite tx.log r.place = some r from
    this.2 r
  clear r
  induction history with
  | start => exact ⟨intact, by simp [Transaction.start, lastWrite, ruleTypesOf]⟩
  | bundle _ _ ih =>
    simpa only [Transaction.after, Tables.addBundle, lastWrite_concat_bundle] using ih
  | subscription _ added ih =>
    obtain ⟨-, -, rfl⟩ := Tables.addSubscription_eq_ok_iff.mp added
    simpa only [Transaction.after, lastWrite_concat_subscription] using ih
  | profile _ added ih =>
    obtain ⟨-, -, rfl⟩ := Tables.addProfile_eq_ok_iff.mp added
    simpa only [Transaction.after, lastWrite_concat_profile] using ih
  | @ruleType tx content kept rows _ put ih =>
    obtain ⟨-, rfl, rfl⟩ := Tables.putRuleType_eq_ok_iff.mp put
    refine ⟨Tables.putRow_places_nodup ih.1, fun r => ?_⟩
    generalize content.row (tx.nextId t) content.definition.name = row
    simp only [Transaction.after, Tables.mem_putRow ih.1, ih.2 r]
    have keptPlace : (Tables.putRow row tx.rows.ruleTypes).1.place = row.place :=
      Tables.putRow_fst_place
    by_cases here : r.place = row.place
    · rw [here, ← keptPlace, lastWrite_concat_of_place]
      simp [eq_comm]
    · have other : r ≠ (Tables.putRow row tx.rows.ruleTypes).1 := fun same =>
        here (same ▸ keptPlace)
      rw [lastWrite_concat_of_ne (by simpa [eq_comm] using here)]
      simp [here, other]

/-! ### The rules of the tables -/

theorem issuedBelow (history : History t s tx) (below : s.IssuedBelow (.transaction t) 0) :
    tx.rows.IssuedBelow (.transaction t) tx.issued := by
  apply below.extend (Issued t tx) (Nat.zero_le _)
  · intro b member
    rw [history.bundles] at member
    exact (List.mem_append.mp member).imp_right (history.issued_bundles b)
  · intro row member
    rw [history.subscriptions] at member
    exact (List.mem_append.mp member).imp_right (history.issued_subscriptions row)
  · intro id own n same
    exact own.lt same

theorem intact (history : History t s tx) (intact : s.Intact)
    (below : s.IssuedBelow (.transaction t) 0) : tx.rows.Intact := by
  induction history with
  | start => exact intact
  | bundle history absent ih => exact ih.addBundle (history.issuedBelow below).bundle_new absent
  | subscription history added ih =>
    exact ih.addSubscription (history.issuedBelow below).subscription_new added
  | ruleType _ put ih => exact ih.putRuleType put
  | profile _ added ih => exact ih.addProfile added

/-! ### Keys -/

theorem hasBundle_of_staged (history : History t s tx) (intact : tx.rows.Intact) :
    ∀ row ∈ subscriptionsOf tx.log, tx.rows.hasBundle row.bundle = true := fun row member =>
  intact.subscriptionBundles row (history.subscriptions ▸ List.mem_append_right _ member)

theorem staged_subset (history : History t s tx) : tx.staged ⊆ keys tx.rows := by
  rw [keys, history.subscriptions, List.map_append]
  exact List.subset_append_right ..

theorem staged_bundle (history : History t s tx) (intact : tx.rows.Intact) (row : BundleRow) :
    (tx.after (tx.rows.addBundle row) (.bundle row)).staged = tx.staged := by
  have same := map_keyOf_mono (Tables.Keeps.addBundle tx.rows row).bundles
    (history.hasBundle_of_staged intact)
  simpa [staged, Transaction.after, Write.subscription?] using same

end History

theorem staged_subscription {tx : Transaction} {rows : Rows} {row : Subscription}
    (added : tx.rows.addSubscription schema row = .ok rows) :
    (tx.after rows (.subscription row)).staged = tx.staged ++ [keyOf tx.rows row] := by
  obtain ⟨-, -, rfl⟩ := Tables.addSubscription_eq_ok_iff.mp added
  have same : keyOf { tx.rows with subscriptions := tx.rows.subscriptions ++ [row] } =
      keyOf tx.rows := keyOf_congr rfl
  simp [staged, Transaction.after, Write.subscription?, same]

theorem staged_ruleType {tx : Transaction} {rows : Rows} {row kept : ContentRow RuleType}
    (put : tx.rows.putRuleType schema row = .ok (kept, rows)) :
    (tx.after rows (.ruleType kept)).staged = tx.staged := by
  obtain ⟨-, -, rfl⟩ := Tables.putRuleType_eq_ok_iff.mp put
  simp [staged, Transaction.after, Write.subscription?, keyOf]

theorem staged_profile {tx : Transaction} {rows : Rows} {row : ContentRow Profile}
    (added : tx.rows.addProfile schema row = .ok rows) :
    (tx.after rows (.profile row)).staged = tx.staged := by
  obtain ⟨-, -, rfl⟩ := Tables.addProfile_eq_ok_iff.mp added
  simp [staged, Transaction.after, Write.subscription?, keyOf]

end Transaction

end RuleCatalog.Store.Memory
