import RuleCatalog.Proofs.Store.Ensured
import RuleCatalog.Proofs.Subscribing.Lasting

/-! # What a subscription brings

A project that has been subscribed to a bundle has the subscription with the version of the bundle,
and from this subscription it has the rule types of the bundle and no others. Rule types are
installed one after another, so of several with one name the project ends up with the last one; a
row is left as it is if it already has a rule type that agrees.
-/

namespace RuleCatalog.Subscribing

open Store Store.Memory

/-! ## The last of a list -/

section LastWith

variable {α κ : Type} [DecidableEq κ] {key : α → κ} {items : List α} {k : κ} {a : α}

/-- The last of some items that has a key. -/
def lastWith (key : α → κ) (items : List α) (k : κ) : Option α :=
  items.reverse.find? (key · == k)

theorem lastWith_concat : lastWith key (items ++ [a]) k =
    if key a = k then some a else lastWith key items k := by
  rw [lastWith, List.reverse_concat, List.find?_cons]
  by_cases here : key a = k
  · simp [here]
  · simp [here, beq_false_of_ne here, lastWith]

theorem lastWith_eq_none_iff : lastWith key items k = none ↔ ∀ a ∈ items, key a ≠ k := by
  simp [lastWith]

theorem exists_lastWith (present : k ∈ items.map key) : ∃ a, lastWith key items k = some a := by
  obtain ⟨a, member, same⟩ := List.mem_map.mp present
  exact Option.ne_none_iff_exists'.mp fun absent => lastWith_eq_none_iff.mp absent a member same

end LastWith

/-! ## Rule types of a subscription -/

/-- A row brings a given rule type to a project: it has the rule type itself, or another given one
that agrees with it. -/
structure Brings (project : Project) (subscription : RowId) (given : List RuleType) (r : RuleType)
    (row : ContentRow RuleType) : Prop where
  subscription : row.subscription = some subscription
  provider : row.provider = project.provider.id
  given : row.definition ∈ given
  same : row.definition = r ∨ row.definition.agrees r = true

/-- The rule types that a project has from a subscription are the given ones. -/
structure Supplied (rows : Rows) (project : Project) (subscription : RowId)
    (given : List RuleType) : Prop where
  /-- Under each name it has the last one of this name. -/
  present : ∀ name r, lastWith RuleType.name given name = some r →
    ∃ row, rows.ruleType? project.id name = some row ∧ Brings project subscription given r row
  /-- It has no others, and no other project has any. -/
  only : ∀ row ∈ rows.ruleTypes, row.subscription = some subscription →
    row.project = project.id ∧ row.name ∈ given.map RuleType.name

variable {rows rows' : Rows} {project : Project} {subscription : RowId} {given : List RuleType}
  {r : RuleType} {row there : ContentRow RuleType} {o : Offering}

theorem Brings.more (brings : Brings project subscription given r row) (other : RuleType) :
    Brings project subscription (given ++ [other]) r row :=
  { brings with given := List.mem_append_left _ brings.given }

/-- From a subscription that is new there is nothing yet. -/
theorem supplied_nil (new : ∀ row ∈ rows.ruleTypes, row.subscription ≠ some subscription) :
    Supplied rows project subscription [] where
  present _ _ last := nomatch last
  only row member own := (new row member own).elim

namespace Supplied

/-- A rule type that is found is one of the given ones. -/
theorem given_of_found (supplied : Supplied rows project subscription given) {name : String}
    (found : rows.ruleType? project.id name = some there)
    (own : there.subscription = some subscription) : there.definition ∈ given := by
  obtain ⟨-, named⟩ := supplied.only there (List.mem_of_find?_eq_some found) own
  have name_eq : there.name = name := congrArg Prod.snd (ContentRow.place_of_found found)
  obtain ⟨r, last⟩ := exists_lastWith (name_eq ▸ named)
  obtain ⟨row, found', brings⟩ := supplied.present name r last
  obtain rfl : there = row := Option.some.inj (found.symm.trans found')
  exact brings.given

/-- A rule type that is there already need not be written. -/
theorem skip (supplied : Supplied rows project subscription given)
    (found : rows.ruleType? project.id r.name = some there)
    (own : there.subscription = some subscription) (provider : there.provider = project.provider.id)
    (agrees : there.definition.agrees r = true) :
    Supplied rows project subscription (given ++ [r]) where
  present name last lastIs := by
    rw [lastWith_concat] at lastIs
    split_ifs at lastIs with here
    · cases lastIs
      -- the row keeps an earlier rule type of this name
      have member := List.mem_append_left [r] (supplied.given_of_found found own)
      exact ⟨there, here ▸ found, own, provider, member, .inr agrees⟩
    · obtain ⟨row, foundRow, brings⟩ := supplied.present name last lastIs
      exact ⟨row, foundRow, brings.more r⟩
  only row member ownRow := by
    obtain ⟨project, named⟩ := supplied.only row member ownRow
    rw [List.map_append]
    exact ⟨project, List.mem_append_left _ named⟩

/-- A rule type that is written is the last one of its name. -/
theorem put (supplied : Supplied rows project subscription given) (intact : rows.Intact)
    {id : RowId} {kept : ContentRow RuleType}
    (put : rows.putRuleType schema
      ((Service.installed project.id project.provider subscription r).row id r.name) =
        .ok (kept, rows')) :
    Supplied rows' project subscription (given ++ [r]) := by
  obtain ⟨-, rfl, rfl⟩ := Tables.putRuleType_eq_ok_iff.mp put
  constructor
  · intro name last lastIs
    rw [lastWith_concat] at lastIs
    simp only [Tables.ruleType?, Tables.find?_putRow, ContentRow.isAt_iff]
    split_ifs at lastIs with here
    · cases lastIs
      refine ⟨_, if_pos (congrArg (Prod.mk project.id) here), ?_⟩
      rw [Tables.putRow_fst]
      exact ⟨rfl, rfl, List.mem_append_right _ (List.mem_singleton_self r), .inl rfl⟩
    · obtain ⟨row, foundRow, brings⟩ := supplied.present name last lastIs
      rw [if_neg fun same => here (congrArg Prod.snd same)]
      exact ⟨row, foundRow, brings.more r⟩
  · intro row member own
    rw [List.map_append]
    rcases (Tables.mem_putRow intact.ruleTypePlaces).mp member with ⟨old, -⟩ | rfl
    · obtain ⟨project, named⟩ := supplied.only row old own
      exact ⟨project, List.mem_append_left _ named⟩
    · rw [Tables.putRow_fst]
      exact ⟨rfl, List.mem_append_right _ (List.mem_singleton_self _)⟩

end Supplied

/-! ## Installing -/

theorem ensures_writeRuleType (intact : rows.Intact)
    (supplied : Supplied rows project subscription given) :
    Ensures (fun outcome rows' => outcome = .ok () →
        Supplied rows' project subscription (given ++ [r]))
      (Service.writeRuleType project.id project.provider subscription r) rows := by
  intro answer rows' answered _
  cases answered with
  | noRuleType e => exact nofun
  | ruleType id put => exact fun _ => supplied.put intact put

theorem ensures_installRuleType (intact : rows.Intact)
    (supplied : Supplied rows project subscription given) :
    Ensures (fun outcome rows' => outcome = .ok () →
        Supplied rows' project subscription (given ++ [r]))
      (Service.installRuleType project.id project.provider subscription r) rows := by
  unfold Service.installRuleType
  cases Service.checkRuleType r with
  | error e =>
    intro ok
    cases ok
  | ok =>
    intro answer rows' answered _
    cases answered
    cases found : rows.ruleType? project.id r.name with
    | none => exact ensures_writeRuleType intact supplied
    | some there =>
      simp only [Transaction.found]
      split_ifs with foreign unchanged
      · intro ok
        cases ok
      · intro _
        simp only [Bool.and_eq_true, beq_iff_eq] at unchanged
        exact supplied.skip found (not_not.mp foreign) unchanged.2 unchanged.1
      · exact ensures_writeRuleType intact supplied

/-- If all rule types are installed, none of their documents is broken. -/
theorem ensures_installAll {ruleTypes : List (Except Bundle.Error RuleType)} (intact : rows.Intact)
    (supplied : Supplied rows project subscription given) :
    Ensures (fun outcome rows' => outcome = .ok () → ∃ installed, ruleTypes = installed.map .ok ∧
        Supplied rows' project subscription (given ++ installed))
      (installAll project subscription ruleTypes) rows := by
  induction ruleTypes generalizing rows given with
  | nil => exact fun _ => ⟨[], rfl, by simpa using supplied⟩
  | cons first rest ih =>
    cases first with
    | error e => exact nofun
    | ok r =>
      apply (ensures_installRuleType intact supplied).andThen intact
      intro outcome rows' _ intact' supplied'
      cases outcome with
      | error e => exact nofun
      | ok =>
        apply (ih intact' (supplied' rfl)).imp intact'
        intro outcome rows'' _ _ ended ok
        obtain ⟨installed, rfl, supplied''⟩ := ended ok
        exact ⟨r :: installed, rfl, by simpa using supplied''⟩

/-! ## Subscribing -/

theorem subscribed_of_found {space name : String} {s : Subscription} {project : Uuid}
    (found : rows.subscription? project space name = some s) :
    Subscribed rows s project space name := by
  obtain ⟨member, own, bundle⟩ := Tables.subscription?_eq_some found
  exact ⟨member, own, bundle⟩

/-- No content has come from a subscription that is added. -/
theorem ruleTypes_of_added (intact : rows.Intact) {s : Subscription} (intact' : rows'.Intact)
    (added : rows.addSubscription schema s = .ok rows') :
    ∀ row ∈ rows'.ruleTypes, row.subscription ≠ some s.id := by
  obtain ⟨-, -, rfl⟩ := Tables.addSubscription_eq_ok_iff.mp added
  intro row member own
  -- content leads to a subscription that was there, which has another id than the added one
  have linked := intact.ruleTypeSubscriptions row member
  rw [own] at linked
  have old := Tables.linked_iff.mp linked s.id rfl
  have distinct := intact'.subscriptionIds
  rw [List.map_append, List.nodup_append] at distinct
  exact distinct.2.2 _ old _ (List.mem_singleton_self _) rfl

/-- A bundle that was asked for is there. -/
theorem bundle_of_answered {space name : String} {answer : Except Store.Error BundleRow}
    (answered : Answered (.ensureBundle space name) rows answer rows') :
    ∃ b ∈ rows'.bundles, answer = .ok b ∧ b.names = (space, name) := by
  cases answered with
  | known known =>
    have names := List.find?_some known
    exact ⟨_, List.mem_of_find?_eq_some known, rfl, by simpa [BundleRow.names] using names⟩
  | bundle id absent => exact ⟨_, List.mem_append_right _ (List.mem_singleton_self _), rfl, rfl⟩

/-- What a project has after it has been subscribed. -/
structure Provided (before after : Rows) (project : Project) (o : Offering) (s : Subscription) :
    Prop where
  subscribed : Subscribed after s project.id o.metadata.space o.metadata.name
  /-- If the subscription was not there before, it is one to the bundle as it is offered. -/
  offered : before.subscription? project.id o.metadata.space o.metadata.name = none →
    s.version = o.metadata.version ∧
      ∃ installed, o.ruleTypes = installed.map .ok ∧ Supplied after project s.id installed

theorem ensures_subscribe (rows : Rows) :
    Ensures (fun outcome rows' => outcome = .ok () → ∃ s, Provided rows rows' project o s)
      (subscribe project o) rows := by
  -- the first answer tells whether the subscription was there before
  intro answer _ answered _
  cases answered
  cases found : rows.subscription? project.id o.metadata.space o.metadata.name with
  | some s =>
    refine fun _ => ⟨s, subscribed_of_found found, fun absent => ?_⟩
    exact (Option.some_ne_none s (found.symm.trans absent)).elim
  | none =>
    intro answer rows₁ answered intact₁
    obtain ⟨bundle, known, rfl, names⟩ := bundle_of_answered answered
    intro answer rows₂ answered intact₂
    cases answered with
    | noSubscription e => exact nofun
    | subscription id added =>
      have subscribed : Subscribed rows₂ ⟨id, project.id, bundle.id, o.metadata.version⟩ project.id
          o.metadata.space o.metadata.name := by
        have kept := Tables.Keeps.addSubscription added
        obtain ⟨-, -, rfl⟩ := Tables.addSubscription_eq_ok_iff.mp added
        exact ⟨List.mem_append_right _ (List.mem_singleton_self _), rfl, bundle,
          kept.bundles.subset known, rfl, names⟩
      have nothing : Supplied rows₂ project id [] :=
        supplied_nil (ruleTypes_of_added intact₁ intact₂ added)
      apply (ensures_installAll intact₂ nothing).imp intact₂
      intro outcome rows' kept _ ended ok
      obtain ⟨installed, offered, supplied⟩ := ended ok
      exact ⟨_, subscribed.mono kept, fun _ => ⟨rfl, installed, offered, supplied⟩⟩

/-- Subscribing succeeds only through a handle that is open, and then it has provided. -/
theorem provided_run {m : Memory} {h : Handle} (sound : m.Sound)
    (ok : ((subscribe project o).run (Memory.answer h) m).1 = .ok ()) :
    ∃ before after s, m.view? h = some before ∧
      ((subscribe project o).run (Memory.answer h) m).2.view? h = some after ∧
      ((subscribe project o).run (Memory.answer h) m).2.Sound ∧
      Provided before after project o s := by
  cases view : m.view? h with
  | none =>
    simp only [subscribe, Script.run, answer_of_closed view, noTransaction] at ok
    cases ok
  | some before =>
    obtain ⟨after, viewAfter, soundAfter, ended⟩ := (ensures_subscribe before).run sound view
    obtain ⟨s, provided⟩ := ended ok
    exact ⟨before, after, s, rfl, viewAfter, soundAfter, provided⟩

end RuleCatalog.Subscribing
