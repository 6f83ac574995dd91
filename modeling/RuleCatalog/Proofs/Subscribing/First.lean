import RuleCatalog.Proofs.Content.Agreement
import RuleCatalog.Proofs.Store.Granted
import RuleCatalog.Proofs.Subscribing.Supplied

/-! # Subscribing for the first time

A project without a subscription to a bundle is subscribed if and only if nobody else has taken the
subscription and every rule type of the bundle can be installed. The ones before a rule type make no
difference to it, although the bundle may have several of one name: what was written so far comes
from the same subscription and may be replaced.
-/

namespace RuleCatalog.Subscribing

open Store Store.Memory

/-! ## Rule types that can be installed -/

/-- A character that may stand in the name of a rule type. -/
def NameChar (c : Char) : Prop :=
  'A' ≤ c ∧ c ≤ 'Z' ∨ 'a' ≤ c ∧ c ≤ 'z' ∨ '0' ≤ c ∧ c ≤ '9' ∨ c = '_' ∨ c = '-'

/-- A rule type that is fit for a project in which it is new. -/
structure Installable (rows : Rows) (project : Uuid) (r : RuleType) : Prop where
  named : r.name ≠ ""
  plain : ∀ c ∈ r.name.toList, NameChar c
  defined : r.definition ≠ .null
  free : (project, r.name) ∉ rows.ruleTypes.map ContentRow.place

theorem isNameChar_iff {c : Char} : Service.isNameChar c = true ↔ NameChar c := by
  have ranges : Service.isNameChar c =
      (decide ('A' ≤ c ∧ c ≤ 'Z') || (decide ('a' ≤ c) && decide (c ≤ 'z')) ||
        (decide ('0' ≤ c) && decide (c ≤ '9')) || c == '_' || c == '-') := rfl
  simp [ranges, NameChar, or_assoc]

theorem isRuleTypeName_iff {name : String} :
    Service.isRuleTypeName name = true ↔ name ≠ "" ∧ ∀ c ∈ name.toList, NameChar c := by
  simp [Service.isRuleTypeName, isNameChar_iff]

theorem checkRuleType_eq_ok_iff {r : RuleType} :
    Service.checkRuleType r = .ok () ↔
      r.name ≠ "" ∧ (∀ c ∈ r.name.toList, NameChar c) ∧ r.definition ≠ .null := by
  rw [← and_assoc, ← isRuleTypeName_iff]
  by_cases isName : Service.isRuleTypeName r.name = true
  · cases defined : r.definition <;> simp [Service.checkRuleType, isName, defined]
  · simp [Service.checkRuleType, isName]

variable {m : Memory} {h : Handle} {base rows rows' : Rows} {project : Project}
  {subscription : RowId} {given : List RuleType} {r : RuleType} {o : Offering} {condition : Prop}

/-! ## Installing rule types -/

/-- Given rule types have been installed from a subscription that was new, and nothing else has
changed. -/
structure Installing (base : Rows) (project : Project) (subscription : RowId)
    (given : List RuleType) (rows : Rows) : Prop where
  new : ∀ row ∈ base.ruleTypes, row.subscription ≠ some subscription
  added : ∃ added, rows = { base with ruleTypes := base.ruleTypes ++ added } ∧
    ∀ row ∈ added, row.subscription = some subscription
  supplied : Supplied rows project subscription given

namespace Installing

/-- What was there before is found wherever it is. -/
theorem found_before (installing : Installing base project subscription given rows) {name : String}
    {there : ContentRow RuleType} (found : base.ruleType? project.id name = some there) :
    rows.ruleType? project.id name = some there ∧ there.subscription ≠ some subscription := by
  obtain ⟨added, rfl, -⟩ := installing.added
  refine ⟨?_, installing.new there (List.mem_of_find?_eq_some found)⟩
  rw [Tables.ruleType?, List.find?_append]
  exact Option.or_eq_some_iff.mpr (.inl found)

/-- Elsewhere only rule types of the subscription are found. -/
theorem own_of_found (installing : Installing base project subscription given rows) {name : String}
    {there : ContentRow RuleType} (free : base.ruleType? project.id name = none)
    (found : rows.ruleType? project.id name = some there) :
    there.subscription = some subscription := by
  obtain ⟨added, rfl, own⟩ := installing.added
  rw [Tables.ruleType?, List.find?_append] at found
  have absent : base.ruleTypes.find? (·.isAt project.id name) = none := free
  rw [absent, Option.none_or] at found
  exact own there (List.mem_of_find?_eq_some found)

theorem put (installing : Installing base project subscription given rows) (intact : rows.Intact)
    (free : base.ruleType? project.id r.name = none) {id : RowId} {kept : ContentRow RuleType}
    (put : rows.putRuleType schema
      ((Service.installed project.id project.provider subscription r).row id r.name) =
        .ok (kept, rows')) :
    Installing base project subscription (given ++ [r]) rows' := by
  refine ⟨installing.new, ?_, installing.supplied.put intact put⟩
  obtain ⟨added, rfl, own⟩ := installing.added
  obtain ⟨-, -, rfl⟩ := Tables.putRuleType_eq_ok_iff.mp put
  have distinct : (added.map ContentRow.place).Nodup := by
    have places := intact.ruleTypePlaces
    rw [List.map_append] at places
    exact places.of_append_right
  have after : Tables.putRow
      ((Service.installed project.id project.provider subscription r).row id r.name)
      (base.ruleTypes ++ added) = _ := Tables.putRow_append free
  rw [after]
  refine ⟨_, rfl, fun row member => ?_⟩
  rcases (Tables.mem_putRow distinct).mp member with ⟨old, -⟩ | rfl
  · exact own row old
  · rw [Tables.putRow_fst]
    rfl

theorem skip (installing : Installing base project subscription given rows)
    {there : ContentRow RuleType} (found : rows.ruleType? project.id r.name = some there)
    (own : there.subscription = some subscription) (provider : there.provider = project.provider.id)
    (agrees : there.definition.agrees r = true) :
    Installing base project subscription (given ++ [r]) rows :=
  { installing with supplied := installing.supplied.skip found own provider agrees }

theorem linked (installing : Installing base project subscription given rows)
    (known : base.linked (some subscription) = true) : rows.linked (some subscription) = true := by
  obtain ⟨added, rfl, -⟩ := installing.added
  exact known

end Installing

theorem Installable.congr {project : Uuid} (same : rows.ruleTypes = rows'.ruleTypes) :
    Installable rows project r ↔ Installable rows' project r := by
  constructor
  · intro fit
    exact { fit with free := same ▸ fit.free }
  · intro fit
    exact { fit with free := same.symm ▸ fit.free }

theorem ruleType?_eq_none_iff {project : Uuid} {name : String} :
    rows.ruleType? project name = none ↔ (project, name) ∉ rows.ruleTypes.map ContentRow.place := by
  simp [Tables.ruleType?, ContentRow.isAt_iff]

theorem run_writeRuleType (sound : m.Sound) (view : m.view? h = some rows)
    (installing : Installing base project subscription given rows)
    (known : base.linked (some subscription) = true)
    (free : base.ruleType? project.id r.name = none) (met : condition) :
    Decided h condition (Installing base project subscription (given ++ [r]))
      ((Service.writeRuleType project.id project.provider subscription r).run
        (Memory.answer h) m) := by
  have linked : rows.linked
      (Service.installed project.id project.provider subscription r).subscription = true :=
    installing.linked known
  obtain ⟨id, kept, rows', put, granted, view'⟩ := answer_putRuleType view linked
  simp only [Service.writeRuleType, Script.run, granted]
  exact decided_ok met view' (installing.put (sound.view_intact view) free put)

/-- Whether a rule type can be installed was settled before the first one was. -/
theorem run_installRuleType (sound : m.Sound) (view : m.view? h = some rows)
    (installing : Installing base project subscription given rows)
    (known : base.linked (some subscription) = true) :
    Decided h (Installable base project.id r) (Installing base project subscription (given ++ [r]))
      ((Service.installRuleType project.id project.provider subscription r).run
        (Memory.answer h) m) := by
  cases checked : Service.checkRuleType r with
  | error e =>
    simp only [Service.installRuleType, checked, Script.run]
    refine decided_error fun fit => ?_
    have passed := checkRuleType_eq_ok_iff.mpr ⟨fit.named, fit.plain, fit.defined⟩
    cases checked.symm.trans passed
  | ok =>
    obtain ⟨named, plain, defined⟩ := checkRuleType_eq_ok_iff.mp checked
    simp only [Service.installRuleType, checked, Script.run, sound.look_ruleType view]
    cases before : base.ruleType? project.id r.name with
    | some there =>
      obtain ⟨found, foreign⟩ := installing.found_before before
      simp only [found, Transaction.found, if_pos foreign, Script.run]
      refine decided_error fun fit => ?_
      exact Option.some_ne_none there (before.symm.trans (ruleType?_eq_none_iff.mpr fit.free))
    | none =>
      have fit : Installable base project.id r :=
        ⟨named, plain, defined, ruleType?_eq_none_iff.mp before⟩
      have write := run_writeRuleType sound view installing known before fit
      cases found : rows.ruleType? project.id r.name with
      | none => exact write
      | some there =>
        have own := installing.own_of_found before found
        simp only [Transaction.found, own, ne_eq, not_true_eq_false, ↓reduceIte]
        split_ifs with unchanged
        · simp only [Bool.and_eq_true, beq_iff_eq] at unchanged
          exact decided_ok fit view (installing.skip found own unchanged.2 unchanged.1)
        · exact write

/-- No document of a bundle is broken, and each holds a rule type that can be installed. -/
def AllInstallable (rows : Rows) (project : Uuid) (docs : List (Except Bundle.Error RuleType)) :
    Prop :=
  ∃ installed : List RuleType, docs = installed.map .ok ∧
    ∀ r ∈ installed, Installable rows project r

section Documents

variable {docs : List (Except Bundle.Error RuleType)}

theorem AllInstallable.congr {project : Uuid} (same : rows.ruleTypes = rows'.ruleTypes) :
    AllInstallable rows project docs ↔ AllInstallable rows' project docs := by
  simp only [AllInstallable, Installable.congr same]

theorem not_allInstallable_of_broken {project : Uuid} {e : Bundle.Error} :
    ¬AllInstallable rows project (.error e :: docs) := by
  rintro ⟨installed, all, -⟩
  cases installed <;> cases all

theorem allInstallable_cons {project : Uuid} :
    AllInstallable rows project (.ok r :: docs) ↔
      Installable rows project r ∧ AllInstallable rows project docs := by
  constructor
  · rintro ⟨installed, all, fit⟩
    cases installed with
    | nil => cases all
    | cons r' others =>
      cases all
      obtain ⟨here, later⟩ := List.forall_mem_cons.mp fit
      exact ⟨here, others, rfl, later⟩
  · rintro ⟨here, others, rfl, later⟩
    exact ⟨r :: others, rfl, List.forall_mem_cons.mpr ⟨here, later⟩⟩

/-- All rule types are installed if each of them can be and no document is broken. -/
theorem run_installAll (sound : m.Sound) (view : m.view? h = some rows)
    (installing : Installing base project subscription given rows)
    (known : base.linked (some subscription) = true) :
    Decided h (AllInstallable base project.id docs)
      (fun rows => ∃ installed : List RuleType, docs = installed.map .ok ∧
        Installing base project subscription (given ++ installed) rows)
      ((installAll project subscription docs).run (Memory.answer h) m) := by
  induction docs generalizing m rows given with
  | nil => exact decided_ok ⟨[], rfl, by simp⟩ view ⟨[], rfl, by simpa using installing⟩
  | cons first rest ih =>
    cases first with
    | error e => exact decided_error not_allInstallable_of_broken
    | ok r =>
      have decided := run_installRuleType (r := r) sound view installing known
      have sound' := sound.run (h := h)
        (Service.installRuleType project.id project.provider subscription r)
      simp only [installAll, Script.run_andThen, allInstallable_cons]
      generalize (Service.installRuleType project.id project.provider subscription r).run
        (Memory.answer h) m = ended at decided sound' ⊢
      obtain ⟨outcome, m'⟩ := ended
      cases outcome with
      | error e =>
        refine decided_error fun all => ?_
        cases decided.ok_iff.mpr all.1
      | ok =>
        have fit := decided.ok_iff.mp rfl
        obtain ⟨rows', view', installing'⟩ := decided.reached rfl
        refine (ih sound' view' installing').imp (and_iff_right fit).symm ?_
        rintro rows'' - - ⟨others, rfl, installed⟩
        exact ⟨r :: others, rfl, by simpa using installed⟩

end Documents

/-! ## What is added -/

/-- What a project gains by its first subscription to a bundle: all changes of the tables. -/
structure Gains (before after : Rows) (project : Project) (o : Offering) (installed : List RuleType)
    (b : BundleRow) (s : Subscription) (added : List (ContentRow RuleType)) : Prop where
  /-- The bundle was known, or it is the only one that is new. -/
  bundles : before.bundle? o.metadata.space o.metadata.name = some b ∧
      after.bundles = before.bundles ∨
    before.bundle? o.metadata.space o.metadata.name = none ∧ after.bundles = before.bundles ++ [b]
  names : b.names = (o.metadata.space, o.metadata.name)
  subscriptions : after.subscriptions = before.subscriptions ++ [s]
  pair : s.pair = (project.id, b.id)
  version : s.version = o.metadata.version
  new : s.id ∉ before.subscriptions.map (·.id)
  ruleTypes : after.ruleTypes = before.ruleTypes ++ added
  profiles : after.profiles = before.profiles
  /-- There is one rule type for every name. -/
  distinct : (added.map (·.name)).Nodup
  every : ∀ name, name ∈ added.map (·.name) ↔ name ∈ installed.map RuleType.name
  /-- It is the last one of its name. -/
  last : ∀ row ∈ added, row.project = project.id ∧
    ∃ r, lastWith RuleType.name installed row.name = some r ∧
      Brings project s.id installed r row ∧ (r.definition.Finite → row.definition.agrees r = true)

theorem Brings.agrees {row : ContentRow RuleType}
    (brings : Brings project subscription given r row) (finite : r.definition.Finite) :
    row.definition.agrees r = true := by
  rcases brings.same with same | agrees
  · rw [same]
    exact RuleType.agrees_self finite
  · exact agrees

namespace Installing

variable {added : List (ContentRow RuleType)}

/-- The rule types that are there after the others were installed. -/
theorem names_iff (installing : Installing base project subscription given rows)
    (split : rows.ruleTypes = base.ruleTypes ++ added)
    (own : ∀ row ∈ added, row.subscription = some subscription) (name : String) :
    name ∈ added.map (·.name) ↔ name ∈ given.map RuleType.name := by
  constructor
  · intro member
    obtain ⟨row, present, rfl⟩ := List.mem_map.mp member
    have there : row ∈ rows.ruleTypes := split ▸ List.mem_append_right _ present
    exact (installing.supplied.only row there (own row present)).2
  · intro member
    obtain ⟨r, last⟩ := exists_lastWith member
    obtain ⟨row, found, brings⟩ := installing.supplied.present name r last
    have there := List.mem_of_find?_eq_some found
    rw [split] at there
    rcases List.mem_append.mp there with old | present
    · exact (installing.new row old brings.subscription).elim
    · exact List.mem_map.mpr ⟨row, present, congrArg Prod.snd (ContentRow.place_of_found found)⟩

theorem last (installing : Installing base project subscription given rows) (intact : rows.Intact)
    {row : ContentRow RuleType} (member : row ∈ rows.ruleTypes)
    (own : row.subscription = some subscription) :
    row.project = project.id ∧ ∃ r, lastWith RuleType.name given row.name = some r ∧
      Brings project subscription given r row ∧
        (r.definition.Finite → row.definition.agrees r = true) := by
  obtain ⟨project, named⟩ := installing.supplied.only row member own
  obtain ⟨r, last⟩ := exists_lastWith named
  obtain ⟨found, here, brings⟩ := installing.supplied.present row.name r last
  have isHere := intact.ruleType?_eq_some_iff.mpr ⟨member, Prod.ext project rfl⟩
  obtain rfl : row = found := Option.some.inj (isHere.symm.trans here)
  exact ⟨project, r, last, brings, brings.agrees⟩

theorem distinct (installing : Installing base project subscription given rows)
    (intact : rows.Intact) (split : rows.ruleTypes = base.ruleTypes ++ added)
    (own : ∀ row ∈ added, row.subscription = some subscription) :
    (added.map (·.name)).Nodup := by
  have places := intact.ruleTypePlaces
  rw [split, List.map_append] at places
  have inProject : added.map ContentRow.place = (added.map (·.name)).map (Prod.mk project.id) := by
    rw [List.map_map]
    refine List.map_congr_left fun row present => ?_
    have there : row ∈ rows.ruleTypes := split ▸ List.mem_append_right _ present
    exact Prod.ext (installing.supplied.only row there (own row present)).1 rfl
  exact List.Nodup.of_map _ (inProject ▸ places.of_append_right)

end Installing

/-! ## Subscribing -/

/-- A bundle that was made sure of was known, or it is the only row that is added. -/
theorem bundles_of_answered {space name : String} {b : BundleRow}
    (answered : Answered (.ensureBundle space name) rows (.ok b) rows') :
    b.names = (space, name) ∧ ∃ bundles, rows' = { rows with bundles := bundles } ∧
      (rows.bundle? space name = some b ∧ bundles = rows.bundles ∨
        rows.bundle? space name = none ∧ bundles = rows.bundles ++ [b]) := by
  cases answered with
  | known known =>
    have names := List.find?_some known
    exact ⟨by simpa [BundleRow.names] using names, _, rfl, .inl ⟨known, rfl⟩⟩
  | bundle id absent => exact ⟨rfl, _, rfl, .inr ⟨absent, rfl⟩⟩

theorem gains_of_installing {before known after : Rows} {b : BundleRow} {s : Subscription}
    {installed : List RuleType}
    (answered : Answered (.ensureBundle o.metadata.space o.metadata.name) before (.ok b) known)
    (subscribed : known.addSubscription schema s = .ok base) (pair : s.pair = (project.id, b.id))
    (version : s.version = o.metadata.version) (intact : base.Intact) (intact' : after.Intact)
    (installing : Installing base project s.id installed after) :
    ∃ added, Gains before after project o installed b s added := by
  obtain ⟨names, bundles, rfl, cases⟩ := bundles_of_answered answered
  obtain ⟨-, -, rfl⟩ := Tables.addSubscription_eq_ok_iff.mp subscribed
  obtain ⟨added, rfl, own⟩ := installing.added
  have new : s.id ∉ before.subscriptions.map (·.id) := by
    have ids := intact.subscriptionIds
    rw [List.map_append, List.nodup_append] at ids
    exact fun old => ids.2.2 _ old _ (List.mem_singleton_self _) rfl
  exact ⟨added, cases, names, rfl, pair, version, new, rfl, rfl,
    installing.distinct intact' rfl own, installing.names_iff rfl own, fun row member =>
      installing.last intact' (List.mem_append_right _ member) (own row member)⟩

/-- What is reached by a first subscription. -/
def Reached (before : Rows) (project : Project) (o : Offering) (after : Rows) : Prop :=
  ∃ installed b s added, o.ruleTypes = installed.map .ok ∧
    Gains before after project o installed b s added

/-- From the bundle on, only the subscription can be taken and rule types can be refused. -/
theorem run_addSubscription {before known : Rows} {b : BundleRow} (sound : m.Sound)
    (view : m.view? h = some known)
    (answered : Answered (.ensureBundle o.metadata.space o.metadata.name) before (.ok b) known)
    (member : b ∈ known.bundles)
    (absent : known.subscription? project.id b.space b.name = none) :
    Decided h
      (FreeFor m h ⟨project.id, b.space, b.name⟩ ∧ AllInstallable before project.id o.ruleTypes)
      (Reached before project o)
      ((Script.ask (.addSubscription project.id b.id o.metadata.version) fun answer =>
        match answer with
        | .error e => .done (.error (.subscription e))
        | .ok s => installAll project s.id o.ruleTypes).run (Memory.answer h) m) := by
  have free_iff :
      (∃ s, (Memory.answer h (.addSubscription project.id b.id o.metadata.version) m).1 = .ok s) ↔
        FreeFor m h ⟨project.id, b.space, b.name⟩ :=
    sound.answer_addSubscription_ok_iff view member absent
  obtain ⟨base, viewBase, subscribed⟩ :=
    answer_answered view (.addSubscription project.id b.id o.metadata.version)
  have soundBase := sound.act (.ask h (.addSubscription project.id b.id o.metadata.version))
  simp only [act] at soundBase
  simp only [Script.run]
  generalize Memory.answer h (.addSubscription project.id b.id o.metadata.version) m = ended at *
  obtain ⟨outcome, m'⟩ := ended
  cases subscribed with
  | noSubscription e =>
    refine decided_error fun met => ?_
    obtain ⟨s, granted⟩ := free_iff.mpr met.1
    cases granted
  | subscription id added =>
    have free := free_iff.mp ⟨_, rfl⟩
    have intactBase := soundBase.view_intact viewBase
    have new := ruleTypes_of_added (sound.view_intact view) intactBase added
    have installing : Installing base project id [] base :=
      ⟨new, ⟨[], by simp, by simp⟩, supplied_nil new⟩
    have linked : base.linked (some id) = true := by
      obtain ⟨-, -, rfl⟩ := Tables.addSubscription_eq_ok_iff.mp added
      simp [Tables.linked_iff]
    have same : base.ruleTypes = before.ruleTypes := by
      obtain ⟨-, bundles, rfl, -⟩ := bundles_of_answered answered
      obtain ⟨-, -, rfl⟩ := Tables.addSubscription_eq_ok_iff.mp added
      rfl
    refine (run_installAll soundBase viewBase installing linked).imp ?_ ?_
    · rw [AllInstallable.congr same, and_iff_right free]
    · rintro after - viewAfter ⟨installed, docs, installedAll⟩
      have intact := (soundBase.run _).view_intact viewAfter
      obtain ⟨rows, gains⟩ := gains_of_installing answered added rfl rfl intactBase intact
        installedAll
      exact ⟨installed, b, _, rows, docs, gains⟩

/-- Subscribing a project that sees no subscription to the bundle yet succeeds if and only if the
subscription is free and all rule types of the bundle can be installed. Then the subscription and
the rule types have been added, and the bundle if it was missing. -/
theorem subscribes_first (actions : List Action) {h : Handle} {before : Rows} {project : Project}
    {o : Offering} (view : (empty.run actions).view? h = some before)
    (absent : before.subscription? project.id o.metadata.space o.metadata.name = none) :
    Decided h
      (FreeFor (empty.run actions) h ⟨project.id, o.metadata.space, o.metadata.name⟩ ∧
        AllInstallable before project.id o.ruleTypes)
      (Reached before project o)
      ((subscribe project o).run (Memory.answer h) (empty.run actions)) := by
  have sound := sound_run actions
  generalize empty.run actions = m at view sound
  simp only [subscribe, findSubscription, Script.run, sound.look_subscription view, absent,
    Transaction.found]
  obtain ⟨known, viewKnown, answered⟩ :=
    answer_answered view (.ensureBundle o.metadata.space o.metadata.name)
  have soundKnown := sound.act (.ask h (.ensureBundle o.metadata.space o.metadata.name))
  obtain ⟨b, member, isBundle, names⟩ := bundle_of_answered answered
  obtain ⟨space, name⟩ := Prod.mk.inj names
  have absentKnown : known.subscription? project.id b.space b.name = none := by
    have same := answered.hasKey_eq (sound.view_intact view) (soundKnown.view_intact viewKnown)
      ⟨project.id, o.metadata.space, o.metadata.name⟩
    rw [space, name]
    exact hasKey_eq_false_iff.mp (same.trans (hasKey_eq_false_iff.mpr absent))
  -- the bundle makes no difference to whether the subscription is free
  rw [← sound.freeFor_ensureBundle]
  rw [isBundle] at answered ⊢
  have decided := run_addSubscription soundKnown viewKnown answered member absentKnown
  rw [space, name] at decided
  exact decided

/-- A bundle with two rule types of one name. -/
private def twoDrafts : Offering where
  metadata := ⟨"stacklok", "healthcheck", "1.0.0", none⟩
  profile name := .error (.noProfile name)
  ruleTypes := [.ok { RuleType.named "r1" with definition := .bool false },
    .ok { RuleType.named "r1" with definition := .bool true }]

private def reader : Project := ⟨⟨1⟩, ⟨⟨2⟩, "github"⟩⟩

theorem subscribes_first_twoDrafts :
    let ended := (subscribe reader twoDrafts).run (Memory.answer (.transaction 0))
      (empty.run [.begin 0])
    ended.1 = .ok () ∧ ∃ after, ended.2.view? (.transaction 0) = some after ∧
      Reached .empty reader twoDrafts after := by
  intro ended
  have decided : Decided (.transaction 0) _ (Reached .empty reader twoDrafts) ended :=
    subscribes_first [.begin 0] rfl rfl
  have free : FreeFor (empty.run [.begin 0]) (.transaction 0) ⟨⟨1⟩, "stacklok", "healthcheck"⟩ :=
    ⟨rfl, nofun⟩
  have all : AllInstallable .empty ⟨1⟩ twoDrafts.ruleTypes := by
    have named : "r1" ≠ "" := by decide
    have plain : ∀ c ∈ "r1".toList, NameChar c := by simp [NameChar]
    have fit (definition : Json.Value) (defined : definition ≠ .null) :
        Installable .empty ⟨1⟩ { RuleType.named "r1" with definition := definition } :=
      ⟨named, plain, defined, List.not_mem_nil⟩
    refine ⟨[_, _], rfl, ?_⟩
    simp only [List.forall_mem_cons]
    exact ⟨fit _ nofun, fit _ nofun, by simp⟩
  have ok := decided.ok_iff.mpr ⟨free, all⟩
  exact ⟨ok, decided.reached ok⟩

end RuleCatalog.Subscribing
