import RuleCatalog.Proofs.Store.Views

/-! # The parts that projects have in the tables

What concerns a project are its own rows and the bundles, which belong to all projects. Its rows are
looked up, added and put in this part of the tables just as in all of them, and the rows of other
projects stay as they are.
-/

namespace RuleCatalog.Store.Memory

/-- The rows of a project, and all bundles. -/
def part (project : Uuid) (rows : Rows) : Rows where
  bundles := rows.bundles
  subscriptions := rows.subscriptions.filter (·.project == project)
  ruleTypes := rows.ruleTypes.filter (·.project == project)
  profiles := rows.profiles.filter (·.project == project)

/-- The rows of a project alone. -/
def share (project : Uuid) (rows : Rows) : Rows := { part project rows with bundles := [] }

variable {rows rows' : Rows} {p q : Uuid}

/-! ## Looking up -/

section Filter

variable {α : Type} {l : List α} {wide narrow : α → Bool}

private theorem and_eq_of_imp (imp : ∀ a, narrow a = true → wide a = true) (a : α) :
    (wide a && narrow a) = narrow a := by
  cases chosen : narrow a
  · exact Bool.and_false _
  · rw [imp a chosen, Bool.and_true]

private theorem find?_filter_of_imp (imp : ∀ a, narrow a = true → wide a = true) :
    (l.filter wide).find? narrow = l.find? narrow := by
  rw [List.find?_filter]
  congr
  funext a
  rw [Bool.decide_and, Bool.decide_coe, Bool.decide_coe, and_eq_of_imp imp]

private theorem any_filter_of_imp (imp : ∀ a, narrow a = true → wide a = true) :
    (l.filter wide).any narrow = l.any narrow := by
  rw [List.any_filter]
  exact congrArg l.any (funext (and_eq_of_imp imp))

end Filter

theorem part_subscription? (space name : String) :
    (part p rows).subscription? p space name = rows.subscription? p space name := by
  refine congrArg (Option.bind (rows.bundle? space name)) (funext fun b => ?_)
  exact find?_filter_of_imp fun s chosen => (Bool.and_eq_true_iff.mp chosen).1

theorem part_ruleType? (name : String) : (part p rows).ruleType? p name = rows.ruleType? p name :=
  find?_filter_of_imp fun _ chosen => (Bool.and_eq_true_iff.mp chosen).1

theorem part_profile? (name : String) : (part p rows).profile? p name = rows.profile? p name :=
  find?_filter_of_imp fun _ chosen => (Bool.and_eq_true_iff.mp chosen).1

theorem part_keyOf : keyOf (part p rows) = keyOf rows := keyOf_congr rfl

theorem part_hasKey {key : SubscriptionKey} (own : key.project = p) :
    hasKey (part p rows) key = hasKey rows key := by
  rw [hasKey, hasKey, own, part_subscription?]

theorem project_of_keyOf {s : Subscription} {key : SubscriptionKey}
    (known : keyOf rows s = some key) : key.project = s.project := by
  obtain ⟨b, -, rfl⟩ := Option.map_eq_some_iff.mp known
  rfl

/-! ## Changing -/

section PutRow

variable {α : Type} {row : ContentRow α} {l : List (ContentRow α)}

theorem putRow_filter (own : row.project = p) :
    Tables.putRow row (l.filter (·.project == p)) =
      ((Tables.putRow row l).1, (Tables.putRow row l).2.filter (·.project == p)) := by
  subst own
  induction l with
  | nil => simp [Tables.putRow]
  | cons other rest ih =>
    by_cases here : other.isAt row.project row.name = true
    · have otherOwn : other.project = row.project := (Prod.mk.inj (ContentRow.isAt_iff.mp here)).1
      simp [Tables.putRow, here, otherOwn]
    · by_cases otherOwn : other.project = row.project
      · simp [Tables.putRow, here, otherOwn, ih]
      · simp [Tables.putRow, here, otherOwn, ih]

theorem filter_putRow_of_ne (apart : row.project ≠ q) :
    (Tables.putRow row l).2.filter (·.project == q) = l.filter (·.project == q) := by
  induction l with
  | nil => simp [Tables.putRow, apart]
  | cons other rest ih =>
    by_cases here : other.isAt row.project row.name = true
    · have otherApart : other.project ≠ q :=
        fun same => apart ((Prod.mk.inj (ContentRow.isAt_iff.mp here)).1.symm.trans same)
      simp [Tables.putRow, here, apart, otherApart]
    · simp [Tables.putRow, here, List.filter_cons, ih]

end PutRow

theorem part_addSubscription {row : Subscription} (own : row.project = p) :
    (part p rows).addSubscription schema row =
      (rows.addSubscription schema row).map (part p) := by
  have known : (part p rows).hasBundle row.bundle = rows.hasBundle row.bundle := rfl
  have taken : ((part p rows).subscriptions.any
      fun s => s.project == row.project && s.bundle == row.bundle) =
        rows.subscriptions.any fun s => s.project == row.project && s.bundle == row.bundle :=
    any_filter_of_imp fun s chosen => own ▸ (Bool.and_eq_true_iff.mp chosen).1
  simp only [Tables.addSubscription, known, taken]
  split_ifs
  · rfl
  · rfl
  · simp [part, Except.map, own]

theorem part_putRuleType {row : ContentRow RuleType} (own : row.project = p)
    (linked : (part p rows).linked row.subscription = rows.linked row.subscription) :
    (part p rows).putRuleType schema row =
      (rows.putRuleType schema row).map (Prod.map id (part p)) := by
  simp only [Tables.putRuleType, linked]
  split_ifs
  · rfl
  · simp [part, Except.map, putRow_filter own]

theorem part_addProfile {row : ContentRow Profile} (own : row.project = p)
    (linked : (part p rows).linked row.subscription = rows.linked row.subscription) :
    (part p rows).addProfile schema row = (rows.addProfile schema row).map (part p) := by
  have taken : ((part p rows).profiles.any (·.isAt row.project row.name)) =
      rows.profiles.any (·.isAt row.project row.name) :=
    any_filter_of_imp fun r chosen => own ▸ (Bool.and_eq_true_iff.mp chosen).1
  simp only [Tables.addProfile, linked, taken]
  split_ifs
  · rfl
  · rfl
  · simp [part, Except.map, own]

/-! ## Other projects -/

theorem share_addSubscription {row : Subscription} (apart : row.project ≠ q)
    (added : rows.addSubscription schema row = .ok rows') : share q rows' = share q rows := by
  obtain ⟨-, -, rfl⟩ := Tables.addSubscription_eq_ok_iff.mp added
  simp [share, part, apart]

theorem share_putRuleType {row kept : ContentRow RuleType} (apart : row.project ≠ q)
    (put : rows.putRuleType schema row = .ok (kept, rows')) : share q rows' = share q rows := by
  obtain ⟨-, -, rfl⟩ := Tables.putRuleType_eq_ok_iff.mp put
  simp [share, part, filter_putRow_of_ne apart]

theorem share_addProfile {row : ContentRow Profile} (apart : row.project ≠ q)
    (added : rows.addProfile schema row = .ok rows') : share q rows' = share q rows := by
  obtain ⟨-, -, rfl⟩ := Tables.addProfile_eq_ok_iff.mp added
  simp [share, part, apart]

/-! ## Reservations -/

namespace Reservations

variable {r : Reservations} {key other : SubscriptionKey} {t : TxId}

theorem lookup_reserve_self : (r.reserve key t).lookup key = some t := by
  simp [reserve]

theorem lookup_reserve_ne (apart : other ≠ key) :
    (r.reserve key t).lookup other = r.lookup other := by
  have unfiltered : (r.filter (·.1 != key)).lookup other = r.lookup other := by
    induction r with
    | nil => rfl
    | cons e rest ih =>
      obtain ⟨first, u⟩ := e
      by_cases same : first = key
      · subst same
        simpa [List.lookup_cons, beq_false_of_ne apart] using ih
      · simp [List.lookup_cons, same, ih]
  simpa [reserve, List.lookup_cons, beq_false_of_ne apart] using unfiltered

end Reservations

end RuleCatalog.Store.Memory
