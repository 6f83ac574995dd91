import Mathlib
import RuleCatalog.Proofs.Store.Granted
import RuleCatalog.Proofs.Store.Mirror
import RuleCatalog.Proofs.Store.Transcript
import RuleCatalog.Service.Profiles

/-! # What refusals tell

A request can break two rules of the tables: that there is a row to which it refers, and that there
is no row already where it would add one. Stores tell the two apart, and the services on top of them
call the second one a conflict. A profile can break both rules at once, if it is of a subscription
that is missing and has the name of another profile. Then memory tells that a row is missing and a
database that there is a second one. In all other cases they tell the same.
-/

namespace RuleCatalog.Store

/-! ## Telling -/

section Tells

variable {α β : Type} {answer : Except Error α} {answer' : Except Error β} {e e' : Error}
  {missing second missing' second' : Prop}

/-- An answer refuses for a missing row under one condition and for a second row under another one,
and for nothing else. -/
structure Tells (answer : Except Error α) (missing second : Prop) : Prop where
  foreignKey_iff : (∃ constraint, answer = .error (.foreignKey constraint)) ↔ missing
  unique_iff : (∃ constraint, answer = .error (.unique constraint)) ↔ second
  only : ∀ e, answer = .error e →
    (∃ constraint, e = .foreignKey constraint) ∨ ∃ constraint, e = .unique constraint

theorem tells_foreignKey {constraint : String} (isMissing : missing) (noSecond : ¬second) :
    Tells (.error (.foreignKey constraint) : Except Error α) missing second where
  foreignKey_iff := iff_of_true ⟨_, rfl⟩ isMissing
  unique_iff := iff_of_false (by simp) noSecond
  only := by simp

theorem tells_unique {constraint : String} (notMissing : ¬missing) (isSecond : second) :
    Tells (.error (.unique constraint) : Except Error α) missing second where
  foreignKey_iff := iff_of_false (by simp) notMissing
  unique_iff := iff_of_true ⟨_, rfl⟩ isSecond
  only := by simp

theorem tells_ok {a : α} (notMissing : ¬missing) (noSecond : ¬second) :
    Tells (.ok a) missing second where
  foreignKey_iff := iff_of_false (by simp) notMissing
  unique_iff := iff_of_false (by simp) noSecond
  only := nofun

theorem Tells.congr (tells : Tells answer missing second) (isMissing : missing ↔ missing')
    (isSecond : second ↔ second') : Tells answer missing' second' where
  foreignKey_iff := tells.foreignKey_iff.trans isMissing
  unique_iff := tells.unique_iff.trans isSecond
  only := tells.only

/-- An answer tells the same as another one that is refused in the same words. -/
theorem Tells.of_refused (tells : Tells answer missing second)
    (refused : ∀ e, answer' = .error e ↔ answer = .error e) : Tells answer' missing second where
  foreignKey_iff := (exists_congr fun _ => refused _).trans tells.foreignKey_iff
  unique_iff := (exists_congr fun _ => refused _).trans tells.unique_iff
  only e isRefused := tells.only e ((refused e).mp isRefused)

/-- What it means that an answer refuses. -/
theorem Tells.of_error (tells : Tells answer missing second) (refused : answer = .error e) :
    missing ∧ (∃ constraint, e = .foreignKey constraint) ∨
      second ∧ ∃ constraint, e = .unique constraint := by
  obtain ⟨constraint, rfl⟩ | ⟨constraint, rfl⟩ := tells.only e refused
  · exact .inl ⟨tells.foreignKey_iff.mp ⟨constraint, refused⟩, constraint, rfl⟩
  · exact .inr ⟨tells.unique_iff.mp ⟨constraint, refused⟩, constraint, rfl⟩

theorem Tells.refused_iff (tells : Tells answer missing second) :
    (∃ e, answer = .error e) ↔ missing ∨ second := by
  constructor
  · rintro ⟨e, refused⟩
    exact (tells.of_error refused).imp And.left And.left
  · rintro (isMissing | isSecond)
    · obtain ⟨constraint, refused⟩ := tells.foreignKey_iff.mpr isMissing
      exact ⟨_, refused⟩
    · obtain ⟨constraint, refused⟩ := tells.unique_iff.mpr isSecond
      exact ⟨_, refused⟩

end Tells

namespace Tables

variable {ρ π : Type} {schema : Schema} {t : Tables ρ π}

theorem tells_addSubscription (row : Subscription) :
    Tells (t.addSubscription schema row) (t.hasBundle row.bundle = false)
      (t.hasBundle row.bundle = true ∧ row.pair ∈ t.subscriptions.map Subscription.pair) := by
  have taken_iff : (t.subscriptions.any fun s =>
      s.project == row.project && s.bundle == row.bundle) = true ↔
        row.pair ∈ t.subscriptions.map Subscription.pair := by
    rw [List.any_eq_true, List.mem_map]
    simp [Subscription.pair]
  rw [addSubscription, ← taken_iff]
  split_ifs with missing second
  · exact tells_foreignKey (by simpa using missing) fun both => by simp [both.1] at missing
  · exact tells_unique (by simpa using missing) ⟨by simpa using missing, second⟩
  · exact tells_ok (by simpa using missing) fun both => second both.2

theorem tells_putRuleType (row : ContentRow ρ) :
    Tells (t.putRuleType schema row) (t.linked row.subscription = false) False := by
  rw [putRuleType]
  split_ifs with missing
  · exact tells_foreignKey (by simpa using missing) not_false
  · exact tells_ok (by simpa using missing) not_false

/-- If both rules are broken the schema says which of them is told. -/
theorem tells_addProfile (row : ContentRow π) :
    Tells (t.addProfile schema row)
      (t.linked row.subscription = false ∧
        (schema.missingFirst = true ∨ row.place ∉ t.profiles.map ContentRow.place))
      (row.place ∈ t.profiles.map ContentRow.place ∧
        (schema.missingFirst = false ∨ t.linked row.subscription = true)) := by
  have taken_iff : (t.profiles.any (·.isAt row.project row.name)) = true ↔
      row.place ∈ t.profiles.map ContentRow.place := any_isAt_iff
  rw [addProfile, ← taken_iff]
  cases linked : t.linked row.subscription <;> cases first : schema.missingFirst <;>
    cases taken : t.profiles.any (·.isAt row.project row.name)
  all_goals first
    | exact tells_foreignKey (by simp) (by simp)
    | exact tells_unique (by simp) (by simp)
    | exact tells_ok (by simp) (by simp)

end Tables

/-! ## Broken rules -/

/-- A request refers to a row that is missing. -/
def Missing (rows : Memory.Rows) : Request → Prop
  | .addSubscription _ bundle _ => rows.hasBundle bundle = false
  | .putRuleType content => rows.linked content.subscription = false
  | .addProfile content => rows.linked content.subscription = false
  | _ => False

/-- A request would add a second row where there may be only one. -/
def Second (rows : Memory.Rows) : Request → Prop
  | .addSubscription project bundle _ =>
    (project, bundle) ∈ rows.subscriptions.map Subscription.pair
  | .addProfile content =>
    (content.project, content.definition.name) ∈ rows.profiles.map ContentRow.place
  | _ => False

/-- Somebody else stands in the way of a subscription: another transaction has reserved its key, or
it has been committed. -/
def Obstructed (committed : Memory.Rows) (reservations : Memory.Reservations) (t : TxId)
    (rows : Memory.Rows) : Request → Prop
  | .addSubscription project bundle _ => ∃ b ∈ rows.bundles, b.id = bundle ∧
      (reservations.heldByOther ⟨project, b.space, b.name⟩ t = true ∨
        Memory.hasKey committed ⟨project, b.space, b.name⟩ = true)
  | _ => False

/-- A request that the rules of the tables are about. -/
inductive Request.Ruled : Request → Prop
  | addSubscription (project : Uuid) (bundle : RowId) (version : String) :
      Ruled (.addSubscription project bundle version)
  | putRuleType (content : NewContent RuleType) : Ruled (.putRuleType content)
  | addProfile (content : NewContent Profile) : Ruled (.addProfile content)

section Answer

variable {ids : Renaming} {t u : TxId} {tx : Memory.Transaction} {there : Database.Transaction}
  {committed rows : Memory.Rows} {reservations : Memory.Reservations} {q : Request} {e : Error}

/-- A subscription cannot break both rules, since there is a bundle to every subscription. -/
theorem not_missing_of_taken (intact : rows.Intact) {project : Uuid} {bundle : RowId}
    (taken : (project, bundle) ∈ rows.subscriptions.map Subscription.pair) :
    rows.hasBundle bundle = true := by
  obtain ⟨s, member, same⟩ := List.mem_map.mp taken
  obtain rfl : s.bundle = bundle := congrArg Prod.snd same
  exact intact.subscriptionBundles s member

/-! ## In memory -/

theorem Memory.Transaction.addSubscription_eq_error_iff {row : Subscription}
    (free : ∀ key, keyOf tx.rows row = some key →
      reservations.heldByOther key t = false ∧ hasKey committed key = false) :
    (addSubscription t committed row (tx, reservations)).1 = .error e ↔
      tx.rows.addSubscription schema row = .error e := by
  cases keyed : keyOf tx.rows row with
  | none =>
    cases added : tx.rows.addSubscription schema row <;> simp [addSubscription, keyed, added]
  | some key =>
    obtain ⟨unreserved, uncommitted⟩ := free key keyed
    cases added : tx.rows.addSubscription schema row <;>
      simp [addSubscription, keyed, unreserved, uncommitted, added]

theorem Memory.Transaction.tells_addSubscription (intact : tx.rows.Intact) (row : Subscription) :
    Tells (addSubscription t committed row (tx, reservations)).1
      (tx.rows.hasBundle row.bundle = false)
      (row.pair ∈ tx.rows.subscriptions.map Subscription.pair ∨
        ∃ b ∈ tx.rows.bundles, b.id = row.bundle ∧
          (reservations.heldByOther ⟨row.project, b.space, b.name⟩ t = true ∨
            hasKey committed ⟨row.project, b.space, b.name⟩ = true)) := by
  by_cases obstructed : ∃ b ∈ tx.rows.bundles, b.id = row.bundle ∧
      (reservations.heldByOther ⟨row.project, b.space, b.name⟩ t = true ∨
        hasKey committed ⟨row.project, b.space, b.name⟩ = true)
  · obtain ⟨b, member, same, taken⟩ := id obstructed
    have known : tx.rows.hasBundle row.bundle = true :=
      Tables.hasBundle_iff.mpr (List.mem_map.mpr ⟨b, member, same⟩)
    have conflict : addSubscription t committed row (tx, reservations) =
        (.error subscriptionConflict, tx, reservations) := by
      simp only [addSubscription, keyOf_of_bundle intact member same, Bool.or_eq_true, taken,
        if_true]
    rw [conflict]
    exact tells_unique (by simp [known]) (.inr obstructed)
  · have free (key : SubscriptionKey) (keyed : keyOf tx.rows row = some key) :
        reservations.heldByOther key t = false ∧ hasKey committed key = false := by
      obtain ⟨b, member, same, rfl⟩ := (keyOf_eq_some_iff intact).mp keyed
      simpa using fun taken => obstructed ⟨b, member, same, taken⟩
    refine ((Tables.tells_addSubscription row).of_refused fun _ =>
      addSubscription_eq_error_iff free).congr .rfl ?_
    rw [or_iff_left obstructed, and_iff_right_of_imp]
    exact not_missing_of_taken intact

theorem Memory.Transaction.putRuleType_eq_error_iff {content : NewContent RuleType} :
    (answer t committed (.putRuleType content) (tx, reservations)).1 = .error e ↔
      tx.rows.putRuleType schema (content.row (tx.nextId t) content.definition.name) =
        .error e := by
  simp only [answer]
  split <;> rename_i put <;> simp [put]

theorem Memory.Transaction.addProfile_eq_error_iff {content : NewContent Profile} :
    (answer t committed (.addProfile content) (tx, reservations)).1 = .error e ↔
      tx.rows.addProfile schema (content.row (tx.nextId t) content.definition.name) =
        .error e := by
  simp only [answer]
  split <;> rename_i added <;> simp [added]

/-- In memory a missing row is told first. -/
theorem Memory.Transaction.tells_answer (intact : tx.rows.Intact) (ruled : q.Ruled) :
    Tells (answer t committed q (tx, reservations)).1 (Missing tx.rows q)
      (Second tx.rows q ∧ ¬Missing tx.rows q ∨
        Obstructed committed reservations t tx.rows q) := by
  cases ruled with
  | addSubscription project bundle version =>
    refine (tells_addSubscription intact ⟨tx.nextId t, project, bundle, version⟩).congr .rfl ?_
    refine or_congr_left (and_iff_left_of_imp fun taken => ?_).symm
    simp [Missing, not_missing_of_taken intact taken]
  | putRuleType content =>
    refine ((Tables.tells_putRuleType _).of_refused fun _ =>
      putRuleType_eq_error_iff).congr .rfl ?_
    simp [Second, Obstructed]
  | addProfile content =>
    have told : (schema.missingFirst = false ∨ tx.rows.linked content.subscription = true) ↔
        ¬Missing tx.rows (.addProfile content) := by simp [schema, Missing]
    refine ((Tables.tells_addProfile _).of_refused fun _ => addProfile_eq_error_iff).congr ?_ ?_
    · exact and_iff_left (.inl rfl)
    · exact (and_congr_right' told).trans (or_iff_left id).symm

/-! ## In a database -/

theorem place_mem_tables_iff {place : Uuid × String} :
    place ∈ ((stored ids).tables rows).profiles.map ContentRow.place ↔
      place ∈ rows.profiles.map ContentRow.place := by
  have places : ((stored ids).tables rows).profiles.map ContentRow.place =
      rows.profiles.map ContentRow.place := by
    rw [Translation.tables, List.map_map]
    rfl
  rw [places]

theorem pair_mem_tables_iff {project : Uuid} {bundle : RowId} :
    (project, ids bundle) ∈ ((stored ids).tables rows).subscriptions.map Subscription.pair ↔
      (project, bundle) ∈ rows.subscriptions.map Subscription.pair := by
  simp [Translation.tables, stored, Renaming.subscription, Subscription.pair]

theorem Database.Transaction.addSubscription_eq_error_iff (intact : there.rows.Intact)
    {project : Uuid} {bundle : RowId} {version : String} :
    (answer u (.addSubscription project bundle version) there).1 = .error e ↔
      there.rows.addSubscription schema ⟨there.nextId u, project, bundle, version⟩ = .error e := by
  rw [answer_addSubscription intact]
  split <;> rename_i added <;> simp [added]

theorem Database.Transaction.putRuleType_eq_error_iff {content : NewContent RuleType} :
    (answer u (.putRuleType content) there).1 = .error e ↔ there.rows.putRuleType schema
      ((content.row (there.nextId u) content.definition.name).withDefinition
        content.definition.toJson) = .error e := by
  rw [answer_putRuleType]
  split <;> rename_i put <;> simp [put]

theorem Database.Transaction.addProfile_eq_error_iff {content : NewContent Profile} :
    (answer u (.addProfile content) there).1 = .error e ↔ there.rows.addProfile schema
      ((content.row (there.nextId u) content.definition.name).withDefinition
        content.definition.toJson) = .error e := by
  rw [answer_addProfile]
  split <;> rename_i added <;> simp [added]

/-- In a database a second row is told first. -/
theorem Database.Transaction.tells_answer (intact : rows.Intact)
    (same : there.rows = (stored ids).tables rows) (ruled : q.Ruled) :
    Tells (answer u (ids.request q) there).1 (Missing rows q ∧ ¬Second rows q)
      (Second rows q) := by
  cases ruled with
  | addSubscription project bundle version =>
    have known : there.rows.hasBundle (ids bundle) = rows.hasBundle bundle :=
      same ▸ (stored ids).hasBundle_tables bundle
    have taken_iff : (project, ids bundle) ∈ there.rows.subscriptions.map Subscription.pair ↔
        (project, bundle) ∈ rows.subscriptions.map Subscription.pair := same ▸ pair_mem_tables_iff
    have intactThere : there.rows.Intact := same ▸ (stored ids).intact_tables intact
    refine ((Tables.tells_addSubscription _).of_refused fun _ =>
      addSubscription_eq_error_iff intactThere).congr ?_ ?_
    · simp only [known, Missing, Second]
      refine (and_iff_left_of_imp fun absent taken => ?_).symm
      exact Bool.false_ne_true (absent.symm.trans (not_missing_of_taken intact taken))
    · simp only [known, Second]
      exact (and_congr_right' taken_iff).trans
        (and_iff_right_of_imp (not_missing_of_taken intact))
  | putRuleType content =>
    have linked : there.rows.linked (content.subscription.map ids) =
        rows.linked content.subscription := same ▸ (stored ids).linked_tables content.subscription
    refine ((Tables.tells_putRuleType _).of_refused fun _ =>
      putRuleType_eq_error_iff).congr ?_ .rfl
    exact (Eq.congr_left linked).trans (and_iff_left id).symm
  | addProfile content =>
    have linked : there.rows.linked (content.subscription.map ids) =
        rows.linked content.subscription := same ▸ (stored ids).linked_tables content.subscription
    have taken_iff : (content.project, content.definition.name) ∈
        there.rows.profiles.map ContentRow.place ↔ Second rows (.addProfile content) :=
      same ▸ place_mem_tables_iff
    refine ((Tables.tells_addProfile _).of_refused fun _ =>
      addProfile_eq_error_iff).congr ?_ ?_
    · exact and_congr (Eq.congr_left linked)
        ((or_iff_right (by decide)).trans (not_congr taken_iff))
    · exact (and_iff_left (.inl rfl)).trans taken_iff

end Answer

/-! ## Refusals on both sides -/

/-- Two refusals tell the same kind of broken rule, in whatever words. -/
inductive Error.SameKind : Error → Error → Prop
  | unique (constraint constraint' : String) : SameKind (.unique constraint) (.unique constraint')
  | foreignKey (constraint constraint' : String) :
      SameKind (.foreignKey constraint) (.foreignKey constraint')

/-- Memory and a database refuse a request alike: in memory also for what happens elsewhere, and in
the same kind unless two rules are broken. -/
structure RefusedAlike {α β : Type} (missing second obstructed : Prop)
    (inMemory : Except Error α) (inDatabase : Except Error β) : Prop where
  refused_of_database : ∀ e', inDatabase = .error e' → ∃ e, inMemory = .error e
  refused_of_memory : ∀ e, inMemory = .error e →
    (∃ e', inDatabase = .error e') ∨ obstructed ∧ ∃ constraint, e = .unique constraint
  sameKind_iff : ∀ e e', inMemory = .error e → inDatabase = .error e' →
    (e.SameKind e' ↔ ¬(missing ∧ second))

theorem refusedAlike_of_tells {α β : Type} {missing second obstructed : Prop}
    {inMemory : Except Error α} {inDatabase : Except Error β}
    (here : Tells inMemory missing (second ∧ ¬missing ∨ obstructed))
    (there : Tells inDatabase (missing ∧ ¬second) second) :
    RefusedAlike missing second obstructed inMemory inDatabase where
  refused_of_database e' refused := by
    rw [here.refused_iff]
    have broken := there.refused_iff.mp ⟨e', refused⟩
    tauto
  refused_of_memory e refused := by
    rw [there.refused_iff]
    obtain ⟨isMissing, -⟩ | ⟨⟨isSecond, -⟩ | isObstructed, told⟩ := here.of_error refused
    · exact .inl (by tauto)
    · exact .inl (.inr isSecond)
    · exact .inr ⟨isObstructed, told⟩
  sameKind_iff e e' refused refused' := by
    obtain ⟨⟨isMissing, noSecond⟩, constraint', rfl⟩ | ⟨isSecond, constraint', rfl⟩ :=
      there.of_error refused'
    · -- only a row is missing, so memory tells this as well
      obtain ⟨constraint, told⟩ := here.foreignKey_iff.mpr isMissing
      cases refused.symm.trans told
      exact iff_of_true (.foreignKey ..) fun both => noSecond both.2
    · by_cases isMissing : missing
      · obtain ⟨constraint, told⟩ := here.foreignKey_iff.mpr isMissing
        cases refused.symm.trans told
        exact iff_of_false nofun fun once => once ⟨isMissing, isSecond⟩
      · obtain ⟨constraint, told⟩ := here.unique_iff.mpr (.inl ⟨isSecond, isMissing⟩)
        cases refused.symm.trans told
        exact iff_of_true (.unique ..) fun both => isMissing both.1

/-! ## Services -/

/-- A service fails since a rule of the tables would be broken. -/
inductive OfRule : Service.Error → Prop
  | secondProfile (name : String) : OfRule (.secondProfile name)
  | unique (constraint : String) : OfRule (.store (.unique constraint))
  | foreignKey (constraint : String) : OfRule (.store (.foreignKey constraint))

/-- A computation of a service fails since a rule of the tables would be broken. -/
structure FailsOfRule {σ : Type} (script : Script (Except Service.Error Unit)) (h : Handler σ)
    (s : σ) (e : Service.Error) : Prop where
  failed : (script.run h s).1 = .error e
  ofRule : OfRule e

/-- How a service that creates profiles groups what the store tells. -/
inductive GroupedAs : Error → Service.Error.Kind → Prop
  | conflict (constraint : String) : GroupedAs (.unique constraint) .conflict
  | store (constraint : String) : GroupedAs (.foreignKey constraint) .store

theorem GroupedAs.eq_iff_sameKind {e e' : Error} {kind kind' : Service.Error.Kind}
    (grouped : GroupedAs e kind) (grouped' : GroupedAs e' kind') :
    kind = kind' ↔ e.SameKind e' := by
  cases grouped with
  | conflict constraint =>
    cases grouped' with
    | conflict constraint' => exact iff_of_true rfl (.unique ..)
    | store constraint' => exact iff_of_false nofun nofun
  | store constraint =>
    cases grouped' with
    | conflict constraint' => exact iff_of_false nofun nofun
    | store constraint' => exact iff_of_true rfl (.foreignKey ..)

section Services

variable {σ : Type} {h : Handler σ} {s : σ} {project : Uuid} {provider : Provider}
  {subscription : RowId} {e : Service.Error}

/-- Looking for a rule type changes nothing and breaks no rule. -/
structure LooksUp (h : Handler σ) (s : σ) : Prop where
  unchanged : ∀ project name, (h (.findRuleType project name) s).2 = s
  unruled : ∀ project name e, (h (.findRuleType project name) s).1 = .error e → ¬OfRule (.store e)

/-! ### Creating profiles -/

theorem not_ofRule_of_checkProfile {p : Profile} (checked : Service.checkProfile p = .error e) :
    ¬OfRule e := by
  rw [Service.checkProfile] at checked
  split_ifs at checked <;> cases checked <;> exact nofun

theorem run_checkRuleTypes_of_looksUp (looks : LooksUp h s) (project : Uuid) (profile : String)
    (names : List String) : ∃ outcome,
      (Service.checkRuleTypes project profile names).run h s = (outcome, s) ∧
        ∀ e, outcome = .error e → ¬OfRule e := by
  induction names with
  | nil => exact ⟨.ok (), rfl, nofun⟩
  | cons name names ih =>
    have unruled := looks.unruled project name
    simp only [Service.checkRuleTypes, Script.run, looks.unchanged]
    cases found : (h (.findRuleType project name) s).1 with
    | ok row => exact ih
    | error e =>
      cases e with
      | notFound => exact ⟨_, rfl, by rintro _ ⟨⟩ ⟨⟩⟩
      | _ =>
        refine ⟨_, rfl, ?_⟩
        rintro _ ⟨⟩
        exact unruled _ found

theorem writeProfile_refused {p : Profile}
    (fails : FailsOfRule (Service.writeProfile project provider subscription p) h s e) : ∃ told,
      (h (.addProfile (Service.installed project provider subscription p)) s).1 = .error told ∧
        GroupedAs told e.kind := by
  obtain ⟨failed, ofRule⟩ := fails
  simp only [Service.writeProfile, Script.run] at failed
  cases told : (h (.addProfile (Service.installed project provider subscription p)) s).1 with
  | ok row =>
    rw [told] at failed
    cases failed
  | error e' =>
    rw [told] at failed
    cases e' with
    | unique constraint =>
      cases failed
      exact ⟨_, rfl, .conflict constraint⟩
    | foreignKey constraint =>
      cases failed
      exact ⟨_, rfl, .store constraint⟩
    | _ =>
      cases failed
      cases ofRule

/-- If creating a profile fails for a rule of the tables it was the store that refused to add it. -/
theorem createProfile_refused (looks : LooksUp h s) {p : Profile}
    (fails : FailsOfRule (Service.createProfile project provider subscription p) h s e) : ∃ told,
      (h (.addProfile (Service.installed project provider subscription p)) s).1 = .error told ∧
        GroupedAs told e.kind := by
  obtain ⟨failed, ofRule⟩ := fails
  cases checked : Service.checkProfile p with
  | error e' =>
    simp only [Service.createProfile, checked, Script.run] at failed
    cases failed
    exact absurd ofRule (not_ofRule_of_checkProfile checked)
  | ok =>
    obtain ⟨outcome, ran, unruled⟩ :=
      run_checkRuleTypes_of_looksUp looks project p.name p.ruleTypeNames
    simp only [Service.createProfile, checked, Script.run_andThen, ran] at failed
    cases outcome with
    | error e' =>
      cases failed
      exact absurd ofRule (unruled _ rfl)
    | ok => exact writeProfile_refused ⟨failed, ofRule⟩

/-! ### Installing rule types -/

theorem not_ofRule_of_checkRuleType {r : RuleType} (checked : Service.checkRuleType r = .error e) :
    ¬OfRule e := by
  rw [Service.checkRuleType] at checked
  split_ifs at checked
  · cases checked
    exact nofun
  · split at checked <;> cases checked
    exact nofun

theorem kind_of_writeRuleType {r : RuleType}
    (failed : ((Service.writeRuleType project provider subscription r).run h s).1 = .error e) :
    e.kind = .store := by
  simp only [Service.writeRuleType, Script.run] at failed
  split at failed <;> cases failed
  rfl

/-- If installing a rule type fails for a rule of the tables this is a failure of the store. -/
theorem kind_of_installRuleType {r : RuleType}
    (fails : FailsOfRule (Service.installRuleType project provider subscription r) h s e) :
    e.kind = .store := by
  obtain ⟨failed, ofRule⟩ := fails
  cases checked : Service.checkRuleType r with
  | error e' =>
    simp only [Service.installRuleType, checked, Script.run] at failed
    cases failed
    exact absurd ofRule (not_ofRule_of_checkRuleType checked)
  | ok =>
    simp only [Service.installRuleType, checked, Script.run] at failed
    split at failed
    · split_ifs at failed
      · cases failed
        cases ofRule
      · cases failed
      · exact kind_of_writeRuleType failed
    · exact kind_of_writeRuleType failed
    · cases failed
      rfl

end Services

/-! ## Both stores -/

section Stores

variable {m : Memory} {d : Database} {ids : Renaming} {t u : TxId} {tx : Memory.Transaction}
  {there : Database.Transaction}

theorem Memory.Sound.looksUp (sound : m.Sound) (isOpen : m.transaction? t = some tx) :
    LooksUp (Memory.answer (.transaction t)) m := by
  have view : m.view? (.transaction t) = some tx.rows := by
    rw [view?, isOpen]
    rfl
  constructor
  · intro project name
    rw [sound.look_ruleType view]
  · intro project name e refused
    rw [sound.look_ruleType view] at refused
    cases found : tx.rows.ruleType? project name with
    | some row =>
      rw [found] at refused
      cases refused
    | none =>
      rw [found] at refused
      cases refused
      exact nofun

theorem Database.looksUp (isOpen : d.transaction? u = some there) :
    LooksUp (Database.answer (.transaction u)) d := by
  have current : d.current = some (u, there) := by
    simpa [transaction?, Option.bind_eq_some_iff] using isOpen
  constructor
  · intro project name
    simp only [answer, isOpen, Transaction.answer]
    rw [← current]
  · intro project name e refused
    simp only [answer, isOpen, Transaction.answer] at refused
    cases found : there.select ruleTypes project name with
    | none =>
      rw [found] at refused
      cases refused
      rintro ⟨⟩
    | some row =>
      simp only [found, Transaction.found] at refused
      split at refused <;> cases refused
      rintro ⟨⟩

/-- As long as a transaction in memory and one of a database have the same rows, they refuse the
same requests, but for what happens elsewhere in memory. They tell the same kind of broken rule
unless both rules are broken, which only a profile can do, and the services group the failures
alike under the same condition. -/
theorem refusals_alike_iff {actions : List Memory.Action}
    (isOpen : (Memory.empty.run actions).transaction? t = some tx)
    (isOpenAlso : d.transaction? u = some there)
    (same : there.rows = (stored ids).tables tx.rows) :
    let m := Memory.empty.run actions
    let inMemory := Memory.answer (.transaction t)
    let inDatabase := Database.answer (.transaction u)
    (∀ q : Request, q.Ruled →
      RefusedAlike (Missing tx.rows q) (Second tx.rows q)
        (Obstructed m.committed m.reservations t tx.rows q)
        (inMemory q m).1 (inDatabase (ids.request q) d).1 ∧
      (Missing tx.rows q → Second tx.rows q → ∃ content, q = .addProfile content)) ∧
    ∀ project provider subscription e e',
      (∀ p, let q := Request.addProfile (Service.installed project provider subscription p)
        FailsOfRule (Service.createProfile project provider subscription p) inMemory m e →
        FailsOfRule (Service.createProfile project provider (ids subscription) p) inDatabase d e' →
        (e.kind = e'.kind ↔ ¬(Missing tx.rows q ∧ Second tx.rows q))) ∧
      ∀ r, FailsOfRule (Service.installRuleType project provider subscription r) inMemory m e →
        FailsOfRule (Service.installRuleType project provider (ids subscription) r) inDatabase d e' →
        e.kind = e'.kind := by
  intro m inMemory inDatabase
  have sound : m.Sound := Memory.sound_run actions
  have intact : tx.rows.Intact := sound.rows_intact isOpen
  have alike (q : Request) (ruled : q.Ruled) :
      RefusedAlike (Missing tx.rows q) (Second tx.rows q)
        (Obstructed m.committed m.reservations t tx.rows q)
        (inMemory q m).1 (inDatabase (ids.request q) d).1 := by
    have here : (inMemory q m).1 =
        (Memory.Transaction.answer t m.committed q (tx, m.reservations)).1 := by
      simp only [inMemory, Memory.answer, m, isOpen]
    have thereAlso : (inDatabase (ids.request q) d).1 =
        (Database.Transaction.answer u (ids.request q) there).1 := by
      simp only [inDatabase, Database.answer, isOpenAlso]
    rw [here, thereAlso]
    exact refusedAlike_of_tells (Memory.Transaction.tells_answer intact ruled)
      (Database.Transaction.tells_answer intact same ruled)
  refine ⟨fun q ruled => ⟨alike q ruled, ?_⟩, fun project provider subscription e e' => ⟨?_, ?_⟩⟩
  · intro isMissing isSecond
    cases ruled with
    | addProfile content => exact ⟨content, rfl⟩
    | putRuleType content => exact isSecond.elim
    | addSubscription project bundle version =>
      exact absurd (not_missing_of_taken intact isSecond) (Bool.eq_false_iff.mp isMissing)
  · intro p q fails fails'
    obtain ⟨told, refused, grouped⟩ := createProfile_refused (sound.looksUp isOpen) fails
    obtain ⟨told', refused', grouped'⟩ := createProfile_refused (Database.looksUp isOpenAlso) fails'
    rw [grouped.eq_iff_sameKind grouped']
    exact (alike q (.addProfile _)).sameKind_iff told told' refused refused'
  · intro r fails fails'
    rw [kind_of_installRuleType fails, kind_of_installRuleType fails']

/-- A profile that names a rule type. -/
def oneRule : Profile := { Profile.named "p1" with rules := [.ofType "r1"] }

/-- The profile for a project, from no subscription or from one. -/
def secondProfile (subscription : Option RowId) : Request :=
  .addProfile ⟨⟨1⟩, ⟨2⟩, subscription, oneRule⟩

/-- What brings the rule type and the profile into the project. -/
def bringing : List Request := [.putRuleType ⟨⟨1⟩, ⟨2⟩, none, .named "r1"⟩, secondProfile none]

/-- A store in memory with a transaction that has both. -/
def broughtInMemory : Memory :=
  Memory.empty.run (.begin 0 :: bringing.map (.ask (.transaction 0)))

/-- A database with a transaction that has both. -/
def broughtInDatabase : Database :=
  bringing.foldl (fun d q => (Database.answer (.transaction 0) q d).2)
    ⟨.empty, some (0, ⟨.empty, 0⟩)⟩

theorem same_rows_brought : ∃ tx there, broughtInMemory.transaction? 0 = some tx ∧
    broughtInDatabase.transaction? 0 = some there ∧
    there.rows = (stored (Equiv.refl _)).tables tx.rows :=
  ⟨_, _, rfl, rfl, rfl⟩

theorem refusals_alike_iff_brought : ∃ e e',
    (Memory.answer (.transaction 0) (secondProfile none) broughtInMemory).1 = .error e ∧
    (Database.answer (.transaction 0) (secondProfile none) broughtInDatabase).1 = .error e' ∧
    e.SameKind e' := by
  obtain ⟨tx, there, isOpen, isOpenAlso, same⟩ := same_rows_brought
  obtain ⟨alike, -⟩ := (refusals_alike_iff isOpen isOpenAlso same).1 (secondProfile none)
    (.addProfile _)
  exact ⟨_, _, rfl, rfl, (alike.sameKind_iff _ _ rfl rfl).mpr nofun⟩

/-- The profile is created again, for a subscription that nobody has made. -/
def createdAgain : Script (Except Service.Error Unit) :=
  Service.createProfile ⟨1⟩ ⟨⟨2⟩, "github"⟩ (.foreign ⟨9⟩) oneRule

/-- Of a second profile from a subscription that is missing, memory tells that the subscription is
missing and a database that there is a profile already, and so the service fails in two groups. -/
theorem second_profile_told_differently :
    (∃ tx there, broughtInMemory.transaction? 0 = some tx ∧
      broughtInDatabase.transaction? 0 = some there ∧
      there.rows = (stored (Equiv.refl _)).tables tx.rows) ∧
    (Memory.answer (.transaction 0) (secondProfile (some (.foreign ⟨9⟩))) broughtInMemory).1 =
      .error (.foreignKey "profiles_subscription_id_fkey") ∧
    (Database.answer (.transaction 0) (secondProfile (some (.foreign ⟨9⟩)))
      broughtInDatabase).1 =
      .error (.unique "UNIQUE constraint failed: profiles.project_id, profiles.name") ∧
    (createdAgain.run (Memory.answer (.transaction 0)) broughtInMemory).1 =
      .error (.store (.foreignKey "profiles_subscription_id_fkey")) ∧
    (createdAgain.run (Database.answer (.transaction 0)) broughtInDatabase).1 =
      .error (.secondProfile "p1") := by
  refine ⟨same_rows_brought, rfl, rfl, rfl, ?_⟩
  -- the database reads the rule type again, which takes some computing
  cbv

end Stores

end RuleCatalog.Store
