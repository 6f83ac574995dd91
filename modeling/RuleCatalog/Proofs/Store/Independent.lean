import RuleCatalog.Proofs.Store.Commit
import RuleCatalog.Proofs.Store.Translation

/-! # Commits in either order

Two transactions that concern different projects can be committed in either order. Each of them ends
in the same way, and the tables have the same rows in the end. Only a bundle that both have added
goes by the id that the first of them has given to it.
-/

namespace RuleCatalog.Store.Memory

open Transaction

variable {m : Memory} {t u : TxId} {tx ux : Transaction} {log : List Write}

/-! ## Projects -/

/-- The project that a write concerns. Bundles belong to all projects. -/
def Write.project? : Write → Option Uuid
  | .bundle _ => none
  | .subscription row => some row.project
  | .ruleType row => some row.project
  | .profile row => some row.project

/-- The projects that a log concerns. -/
def projectsOf (log : List Write) : List Uuid := log.filterMap Write.project?

theorem project_of_ruleTypesOf {r : ContentRow RuleType} (member : r ∈ ruleTypesOf log) :
    r.project ∈ projectsOf log := by
  obtain ⟨w, logged, same⟩ := List.mem_filterMap.mp member
  refine List.mem_filterMap.mpr ⟨w, logged, ?_⟩
  cases w <;> simp_all [Write.ruleType?, Write.project?]

theorem project_of_profilesOf {p : ContentRow Profile} (member : p ∈ profilesOf log) :
    p.project ∈ projectsOf log := by
  obtain ⟨w, logged, same⟩ := List.mem_filterMap.mp member
  refine List.mem_filterMap.mpr ⟨w, logged, ?_⟩
  cases w <;> simp_all [Write.profile?, Write.project?]

/-- A log puts nothing into the projects of an independent one. -/
theorem lastWrite_of_disjoint {other : List Write}
    (independent : (projectsOf log).Disjoint (projectsOf other)) {place : Uuid × String}
    {w : ContentRow RuleType} (last : lastWrite log place = some w) :
    lastWrite other place = none := by
  by_contra written
  obtain ⟨v, lastOther⟩ := Option.ne_none_iff_exists'.mp written
  have same : w.project = v.project :=
    congrArg Prod.fst ((place_of_lastWrite last).trans (place_of_lastWrite lastOther).symm)
  exact independent (project_of_ruleTypesOf (mem_of_lastWrite last))
    (same ▸ project_of_ruleTypesOf (mem_of_lastWrite lastOther))

/-! ## The same rows -/

/-- The subscription with its bundle under another id. -/
def rebound (e : Renaming) (s : Subscription) : Subscription := { s with bundle := e s.bundle }

/-- Tables with the same rows in any order, but for the ids of bundles. -/
structure SameRows (e : Renaming) (rows other : Rows) : Prop where
  bundles : (rows.bundles.map e.bundle).Perm other.bundles
  subscriptions : (rows.subscriptions.map (rebound e)).Perm other.subscriptions
  ruleTypes : rows.ruleTypes.Perm other.ruleTypes
  profiles : rows.profiles.Perm other.profiles
  /-- Subscriptions are to bundles of the same names. -/
  keys : ∀ s ∈ rows.subscriptions, keyOf other (rebound e s) = keyOf rows s

theorem sameRows_refl (rows : Rows) : SameRows (Equiv.refl RowId) rows rows where
  bundles := .of_eq (List.map_id rows.bundles)
  subscriptions := .of_eq (List.map_id rows.subscriptions)
  ruleTypes := .refl _
  profiles := .refl _
  keys _ _ := rfl

/-- Every bundle gets the id that the bundle of its names has in the other tables. -/
def Exchanges (e : Renaming) (rows other : Rows) : Prop :=
  ∀ b ∈ rows.bundles, ∀ c ∈ other.bundles, b.names = c.names → e b.id = c.id

/-- Ids of bundles of the same names that both transactions have added. -/
def BothAdded (base : Rows) (tx ux : Transaction) (id : RowId) : Prop :=
  ∃ b ∈ bundlesOf tx.log, ∃ c ∈ bundlesOf ux.log, b.names = c.names ∧
    base.bundle? b.space b.name = none ∧ (id = b.id ∨ id = c.id)

/-! ## Two logs in either order -/

/-- The logs of two transactions applied to tables in both orders: that of `tx` first, by way of
`left`, and that of `ux` first, by way of `right`. -/
structure Diamond (base : Rows) (tx ux : Transaction) (left right leftEnd rightEnd : Rows) :
    Prop where
  intact : base.Intact
  txIntact : tx.rows.Intact
  uxIntact : ux.rows.Intact
  txBundles : bundlesOf tx.log ⊆ tx.rows.bundles
  uxBundles : bundlesOf ux.log ⊆ ux.rows.bundles
  independent : (projectsOf tx.log).Disjoint (projectsOf ux.log)
  leftFirst : Applied base tx left
  leftThen : Applied left ux leftEnd
  rightFirst : Applied base ux right
  rightThen : Applied right tx rightEnd

/-- The bundles that a log adds are known by their names. -/
theorem Applied.exists_bundle {old new : Rows} (applied : Applied old tx new) {b : BundleRow}
    (logged : b ∈ bundlesOf tx.log) : ∃ c ∈ new.bundles, c.names = b.names := by
  cases found : old.bundle? b.space b.name with
  | none =>
    refine ⟨b, applied.bundles ▸ List.mem_append_right _ (List.mem_filter.mpr ⟨logged, ?_⟩), rfl⟩
    simp [found]
  | some c =>
    have names : c.names = b.names := by
      simpa [BundleRow.names] using List.find?_some found
    exact ⟨c, applied.keeps.bundles.subset (List.mem_of_find?_eq_some found), names⟩

/-- A bundle was there, or it is one of the log whose names were unknown. -/
theorem Applied.mem_bundles_iff {old new : Rows} (applied : Applied old tx new) {b : BundleRow} :
    b ∈ new.bundles ↔ b ∈ old.bundles ∨
      b ∈ bundlesOf tx.log ∧ old.bundle? b.space b.name = none := by
  rw [applied.bundles, List.mem_append, List.mem_filter, Option.isNone_iff_eq_none]

namespace Diamond

variable {base left right leftEnd rightEnd : Rows}

theorem symm (d : Diamond base tx ux left right leftEnd rightEnd) :
    Diamond base ux tx right left rightEnd leftEnd :=
  ⟨d.intact, d.uxIntact, d.txIntact, d.uxBundles, d.txBundles,
    fun _ left right => d.independent right left, d.rightFirst, d.rightThen, d.leftFirst,
    d.leftThen⟩

/-! ### Bundles -/

theorem exists_bundle (d : Diamond base tx ux left right leftEnd rightEnd) {b : BundleRow}
    (member : b ∈ leftEnd.bundles) : ∃ c ∈ rightEnd.bundles, c.names = b.names := by
  rcases d.leftThen.mem_bundles_iff.mp member with present | ⟨logged, -⟩
  · rcases d.leftFirst.mem_bundles_iff.mp present with old | ⟨logged, -⟩
    · exact ⟨b, d.rightThen.keeps.bundles.subset (d.rightFirst.keeps.bundles.subset old), rfl⟩
    · exact d.rightThen.exists_bundle logged
  · obtain ⟨c, present, names⟩ := d.rightFirst.exists_bundle logged
    exact ⟨c, d.rightThen.keeps.bundles.subset present, names⟩

/-- Where a bundle in the end comes from. -/
theorem bundle_cases (d : Diamond base tx ux left right leftEnd rightEnd) {b : BundleRow}
    (member : b ∈ leftEnd.bundles) : b ∈ base.bundles ∨
      b ∈ bundlesOf tx.log ∧ base.bundle? b.space b.name = none ∨
        b ∈ bundlesOf ux.log ∧ base.bundle? b.space b.name = none := by
  rcases d.leftThen.mem_bundles_iff.mp member with present | ⟨logged, absent⟩
  · exact (d.leftFirst.mem_bundles_iff.mp present).imp_right .inl
  · refine .inr (.inr ⟨logged, ?_⟩)
    rw [Tables.bundle?_eq_none_iff] at absent ⊢
    exact fun old => absent ((d.leftFirst.keeps.bundles.map _).subset old)

/-- A bundle goes by different ids only if both transactions have added it. -/
theorem bothAdded (d : Diamond base tx ux left right leftEnd rightEnd) {b c : BundleRow}
    (member : b ∈ leftEnd.bundles) (other : c ∈ rightEnd.bundles) (names : b.names = c.names)
    (differ : b.id ≠ c.id) {id : RowId} (isEither : id = b.id ∨ id = c.id) :
    BothAdded base tx ux id := by
  have distinct : b ≠ c := fun same => differ (congrArg BundleRow.id same)
  have oldLeft : ∀ {b}, b ∈ base.bundles → b ∈ leftEnd.bundles := fun old =>
    d.leftThen.keeps.bundles.subset (d.leftFirst.keeps.bundles.subset old)
  have oldRight : ∀ {b}, b ∈ base.bundles → b ∈ rightEnd.bundles := fun old =>
    d.rightThen.keeps.bundles.subset (d.rightFirst.keeps.bundles.subset old)
  have sameLeft : c ∉ leftEnd.bundles := fun present =>
    distinct (List.inj_on_of_nodup_map d.leftThen.intact.bundleNames member present names)
  have sameRight : b ∉ rightEnd.bundles := fun present =>
    distinct (List.inj_on_of_nodup_map d.rightThen.intact.bundleNames present other names)
  rcases d.bundle_cases member with old | ⟨bLogged, bAbsent⟩ | ⟨bLogged, bAbsent⟩
  · exact (sameRight (oldRight old)).elim
  · rcases d.symm.bundle_cases other with old | ⟨cLogged, -⟩ | ⟨cLogged, -⟩
    · exact (sameLeft (oldLeft old)).elim
    · exact ⟨b, bLogged, c, cLogged, names, bAbsent, isEither⟩
    · exact (distinct (List.inj_on_of_nodup_map d.txIntact.bundleNames (d.txBundles bLogged)
        (d.txBundles cLogged) names)).elim
  · rcases d.symm.bundle_cases other with old | ⟨cLogged, -⟩ | ⟨cLogged, cAbsent⟩
    · exact (sameLeft (oldLeft old)).elim
    · exact (distinct (List.inj_on_of_nodup_map d.uxIntact.bundleNames (d.uxBundles bLogged)
        (d.uxBundles cLogged) names)).elim
    · exact ⟨c, cLogged, b, bLogged, names.symm, cAbsent, isEither.symm⟩

/-- The ids of the bundles can be exchanged, and no others are touched. -/
theorem exists_renaming (d : Diamond base tx ux left right leftEnd rightEnd) :
    ∃ e : Renaming, (∀ id, e id ≠ id → BothAdded base tx ux id) ∧
      Exchanges e leftEnd rightEnd := by
  choose! partner there names using fun b => d.exists_bundle (b := b)
  have distinct : leftEnd.bundles.Nodup := d.leftThen.intact.bundleIds.of_map
  have first : ((leftEnd.bundles.map fun b => (b.id, (partner b).id)).map Prod.fst).Nodup := by
    simpa [Function.comp_def] using d.leftThen.intact.bundleIds
  have second : ((leftEnd.bundles.map fun b => (b.id, (partner b).id)).map Prod.snd).Nodup := by
    rw [List.map_map]
    refine distinct.map_on fun b member c present same => ?_
    have matched : partner b = partner c :=
      List.inj_on_of_nodup_map d.rightThen.intact.bundleIds (there b member) (there c present) same
    exact List.inj_on_of_nodup_map d.leftThen.intact.bundleNames member present
      ((names b member).symm.trans (matched ▸ names c present))
  obtain ⟨e, exchanged, others⟩ := exists_perm_of_pairs first second
  refine ⟨e, ?_, ?_⟩
  · intro id moved
    obtain ⟨p, paired, differ, isEither⟩ := others id moved
    obtain ⟨b, member, rfl⟩ := List.mem_map.mp paired
    exact d.bothAdded member (there b member) (names b member).symm differ isEither
  · intro b member c other same
    have matched : partner b = c :=
      List.inj_on_of_nodup_map d.rightThen.intact.bundleNames (there b member) other
        ((names b member).trans same)
    exact matched ▸ exchanged _ (List.mem_map_of_mem member)

variable {e : Renaming}

theorem perm_bundles (d : Diamond base tx ux left right leftEnd rightEnd)
    (exchanged : Exchanges e leftEnd rightEnd) :
    (leftEnd.bundles.map e.bundle).Perm rightEnd.bundles := by
  have renamed : ∀ b ∈ leftEnd.bundles, ∀ c ∈ rightEnd.bundles, b.names = c.names →
      e.bundle b = c := by
    intro b member c other names
    obtain ⟨space, name⟩ := Prod.mk.inj names
    rw [Renaming.bundle, exchanged b member c other names, space, name]
  have distinct : (leftEnd.bundles.map e.bundle).Nodup := by
    refine List.Nodup.of_map BundleRow.names ?_
    rw [List.map_map]
    exact d.leftThen.intact.bundleNames
  refine (List.perm_ext_iff_of_nodup distinct d.rightThen.intact.bundleIds.of_map).mpr fun c => ?_
  constructor
  · intro member
    obtain ⟨b, present, rfl⟩ := List.mem_map.mp member
    obtain ⟨c, other, names⟩ := d.exists_bundle present
    exact renamed b present c other names.symm ▸ other
  · intro other
    obtain ⟨b, present, names⟩ := d.symm.exists_bundle other
    exact List.mem_map.mpr ⟨b, present, renamed b present c other names⟩

/-! ### Subscriptions -/

/-- What was added of one subscription on either way is the same but for the id of its bundle. -/
theorem rebound_arrived {seen leftRows rightRows : Rows} (leftKeeps : leftRows.Keeps leftEnd)
    (rightKeeps : rightRows.Keeps rightEnd)
    (exchanged : Exchanges e leftEnd rightEnd)
    {log kept other : List Subscription} (arrived : List.Forall₂ (Arrived seen leftRows) log kept)
    (arrivedOther : List.Forall₂ (Arrived seen rightRows) log other) :
    kept.map (rebound e) = other := by
  induction arrived generalizing other with
  | nil =>
    cases arrivedOther
    rfl
  | @cons row s log kept here later ih =>
    cases arrivedOther with
    | @cons _ s' _ other hereOther laterOther =>
      have same : rebound e s = s' := by
        obtain ⟨key, keyed, b, found, isBundle⟩ := here.bundle
        obtain ⟨key', keyed', c, foundOther, isOther⟩ := hereOther.bundle
        obtain rfl : key = key' := Option.some.inj (keyed.symm.trans keyed')
        have names : b.names = c.names := by
          have ofLeft := List.find?_some found
          have ofRight := List.find?_some foundOther
          simp only [Bool.and_eq_true, beq_iff_eq] at ofLeft ofRight
          simp only [BundleRow.names, ofLeft, ofRight]
        have moved := exchanged b (leftKeeps.bundles.subset (List.mem_of_find?_eq_some found)) c
          (rightKeeps.bundles.subset (List.mem_of_find?_eq_some foundOther)) names
        obtain ⟨id, project, bundle, version⟩ := s'
        simp only [rebound, Subscription.mk.injEq]
        exact ⟨here.id.trans hereOther.id.symm, here.project.trans hereOther.project.symm,
          (congrArg e isBundle).trans (moved.trans isOther.symm),
          here.version.trans hereOther.version.symm⟩
      rw [List.map_cons, same, ih laterOther]

theorem perm_subscriptions (d : Diamond base tx ux left right leftEnd rightEnd)
    (exchanged : Exchanges e leftEnd rightEnd) :
    (leftEnd.subscriptions.map (rebound e)).Perm rightEnd.subscriptions := by
  obtain ⟨first, leftRows, arrivedFirst⟩ := d.leftFirst.subscriptions
  obtain ⟨next, leftEndRows, arrivedNext⟩ := d.leftThen.subscriptions
  obtain ⟨other, rightRows, arrivedOther⟩ := d.rightFirst.subscriptions
  obtain ⟨last, rightEndRows, arrivedLast⟩ := d.rightThen.subscriptions
  have old : base.subscriptions.map (rebound e) = base.subscriptions := by
    apply (List.map_congr_left _).trans (List.map_id _)
    intro s member
    obtain ⟨b, present, same⟩ :=
      List.mem_map.mp (Tables.hasBundle_iff.mp (d.intact.subscriptionBundles s member))
    have still : e b.id = b.id :=
      exchanged b (d.leftThen.keeps.bundles.subset (d.leftFirst.keeps.bundles.subset present)) b
        (d.rightThen.keeps.bundles.subset (d.rightFirst.keeps.bundles.subset present)) rfl
    rw [rebound, ← same, still, same]
    rfl
  have ofTx : first.map (rebound e) = last :=
    rebound_arrived d.leftThen.keeps (.refl _) exchanged arrivedFirst arrivedLast
  have ofUx : next.map (rebound e) = other :=
    rebound_arrived (.refl _) d.rightThen.keeps exchanged arrivedNext arrivedOther
  rw [leftEndRows, leftRows, rightEndRows, rightRows, List.map_append, List.map_append, old, ofTx,
    ofUx, List.append_assoc, List.append_assoc]
  exact List.perm_append_comm.append_left _

/-- A subscription is to a bundle of the same names. -/
theorem keyOf_rebound (d : Diamond base tx ux left right leftEnd rightEnd)
    (exchanged : Exchanges e leftEnd rightEnd)
    {s : Subscription} (member : s ∈ leftEnd.subscriptions) :
    keyOf rightEnd (rebound e s) = keyOf leftEnd s := by
  obtain ⟨b, present, same⟩ := List.mem_map.mp
    (Tables.hasBundle_iff.mp (d.leftThen.intact.subscriptionBundles s member))
  obtain ⟨c, other, names⟩ := d.exists_bundle present
  have bundle : c.id = (rebound e s).bundle :=
    (exchanged b present c other names.symm).symm.trans (congrArg e same)
  obtain ⟨space, name⟩ := Prod.mk.inj names
  rw [keyOf_of_bundle d.leftThen.intact present same,
    keyOf_of_bundle d.rightThen.intact other bundle, space, name]
  rfl

/-! ### Content -/

/-- A rule type lands where it would if the other log had not been applied. -/
theorem landed_eq (applied : Applied base tx left)
    {w : ContentRow RuleType} (unwritten : lastWrite tx.log (w.project, w.name) = none) :
    landed left w = landed base w := by
  rw [landed, applied.ruleTypes, unwritten, Option.map_none, Option.none_or]
  rfl

theorem mem_ruleTypes_iff {rows : Rows} (intact : rows.Intact) {r : ContentRow RuleType} :
    r ∈ rows.ruleTypes ↔ rows.ruleType? r.project r.name = some r := by
  rw [intact.ruleType?_eq_some_iff]
  exact (and_iff_left rfl).symm

theorem ruleType?_eq (d : Diamond base tx ux left right leftEnd rightEnd) (project : Uuid)
    (name : String) : leftEnd.ruleType? project name = rightEnd.ruleType? project name := by
  rw [d.leftThen.ruleTypes, d.leftFirst.ruleTypes, d.rightThen.ruleTypes, d.rightFirst.ruleTypes]
  cases lastTx : lastWrite tx.log (project, name) with
  | some w =>
    -- then the other log leaves the place alone
    have unwritten := lastWrite_of_disjoint d.independent lastTx
    have place : (w.project, w.name) = (project, name) := place_of_lastWrite lastTx
    have lands : landed right w = landed base w := landed_eq d.rightFirst (place ▸ unwritten)
    simp only [unwritten, lands, Option.map_none, Option.map_some, Option.none_or, Option.some_or]
  | none =>
    cases lastUx : lastWrite ux.log (project, name) with
    | none => rfl
    | some w =>
      have place : (w.project, w.name) = (project, name) := place_of_lastWrite lastUx
      have lands : landed left w = landed base w := landed_eq d.leftFirst (place ▸ lastTx)
      simp only [lands, Option.map_none, Option.map_some, Option.none_or, Option.some_or]

theorem perm_ruleTypes (d : Diamond base tx ux left right leftEnd rightEnd) :
    leftEnd.ruleTypes.Perm rightEnd.ruleTypes := by
  refine (List.perm_ext_iff_of_nodup d.leftThen.intact.ruleTypePlaces.of_map
    d.rightThen.intact.ruleTypePlaces.of_map).mpr fun r => ?_
  rw [mem_ruleTypes_iff d.leftThen.intact, mem_ruleTypes_iff d.rightThen.intact, d.ruleType?_eq]

theorem perm_profiles (d : Diamond base tx ux left right leftEnd rightEnd) :
    leftEnd.profiles.Perm rightEnd.profiles := by
  rw [d.leftThen.profiles, d.leftFirst.profiles, d.rightThen.profiles, d.rightFirst.profiles,
    List.append_assoc, List.append_assoc]
  exact List.perm_append_comm.append_left _

/-- Both ways lead to the same rows. -/
theorem sameRows (d : Diamond base tx ux left right leftEnd rightEnd) :
    ∃ e : Renaming, (∀ id, e id ≠ id → BothAdded base tx ux id) ∧ SameRows e leftEnd rightEnd := by
  obtain ⟨e, only, exchanged⟩ := d.exists_renaming
  exact ⟨e, only, d.perm_bundles exchanged, d.perm_subscriptions exchanged, d.perm_ruleTypes,
    d.perm_profiles, fun s member => d.keyOf_rebound exchanged member⟩

end Diamond

/-! ## Commits -/

variable {m' : Memory}

theorem transaction?_commit_ne (apart : u ≠ t) :
    (m.commit t).2.transaction? u = m.transaction? u := by
  unfold commit
  split
  · rfl
  · split <;> exact transaction?_without_ne apart

/-- What a commit does depends on the log and on the committed tables only. -/
theorem commit_congr (isOpen : m.transaction? t = some tx) (isOpen' : m'.transaction? t = some tx)
    (same : m'.committed = m.committed) :
    (m'.commit t).1 = (m.commit t).1 ∧ (m'.commit t).2.committed = (m.commit t).2.committed := by
  simp only [commit, isOpen, isOpen', same]
  cases replay tx.log m.committed with
  | error e => exact ⟨rfl, same⟩
  | ok rows => exact ⟨rfl, rfl⟩

/-- A profile of another project is in nobody's way. -/
theorem Applied.displaced_iff {base right : Rows} (applied : Applied base ux right)
    (independent : (projectsOf tx.log).Disjoint (projectsOf ux.log)) :
    Displaced right tx.log ↔ Displaced base tx.log := by
  have elsewhere : ∀ p ∈ profilesOf tx.log, p.place ∉ (profilesOf ux.log).map ContentRow.place := by
    intro p logged member
    obtain ⟨q, loggedOther, same⟩ := List.mem_map.mp member
    have project : q.project = p.project := congrArg Prod.fst same
    exact independent (project_of_profilesOf logged) (project ▸ project_of_profilesOf loggedOther)
  rw [Displaced, applied.profiles, List.map_append]
  refine exists_congr fun p => and_congr_right fun logged => ?_
  rw [List.mem_append, or_iff_left (elsewhere p logged)]

namespace Sound

/-- A commit that nothing is in the way of. -/
theorem commit_of_free (sound : Sound m) (isOpen : m.transaction? t = some tx)
    (free : ¬ Displaced m.committed tx.log) : (m.commit t).1 = .ok () ∧
      Applied m.committed tx (m.commit t).2.committed := by
  rcases sound.commit_cases isOpen with ⟨displaced, -⟩ | ⟨-, rows, redirection, merged, ended⟩
  · exact (free displaced).elim
  · obtain ⟨s, -, -, history⟩ := sound.histories t tx isOpen
    rw [ended]
    exact ⟨rfl, merged.applied sound.intact (sound.rows_intact isOpen) history⟩

/-- A commit that a profile is in the way of. -/
theorem commit_of_displaced (sound : Sound m) (isOpen : m.transaction? t = some tx)
    (displaced : Displaced m.committed tx.log) :
    (m.commit t).1 = .error (.unique schema.secondProfile) ∧
      (m.commit t).2.committed = m.committed := by
  rcases sound.commit_cases isOpen with ⟨-, ended⟩ | ⟨free, -⟩
  · rw [ended]
    exact ⟨rfl, rfl⟩
  · exact (free displaced).elim

/-- Whether something is in the way of a commit does not depend on whether an independent one comes
first. -/
theorem displaced_commit_iff (sound : Sound m) (uOpen : m.transaction? u = some ux)
    (independent : (projectsOf tx.log).Disjoint (projectsOf ux.log)) :
    Displaced (m.commit u).2.committed tx.log ↔ Displaced m.committed tx.log := by
  by_cases displaced : Displaced m.committed ux.log
  · rw [(sound.commit_of_displaced uOpen displaced).2]
  · exact (sound.commit_of_free uOpen displaced).2.displaced_iff independent

/-- A commit ends in the same way if an independent one comes first. -/
theorem commit_after (sound : Sound m) (apart : t ≠ u) (tOpen : m.transaction? t = some tx)
    (uOpen : m.transaction? u = some ux)
    (independent : (projectsOf tx.log).Disjoint (projectsOf ux.log)) :
    ((m.commit u).2.commit t).1 = (m.commit t).1 := by
  have stillOpen : (m.commit u).2.transaction? t = some tx :=
    (transaction?_commit_ne apart).trans tOpen
  have same := sound.displaced_commit_iff uOpen independent
  by_cases displaced : Displaced m.committed tx.log
  · exact ((sound.commit u).commit_of_displaced stillOpen (same.mpr displaced)).1.trans
      (sound.commit_of_displaced tOpen displaced).1.symm
  · exact ((sound.commit u).commit_of_free stillOpen (mt same.mp displaced)).1.trans
      (sound.commit_of_free tOpen displaced).1.symm

/-- A commit that comes to nothing makes no difference to an independent one. -/
theorem committed_of_displaced (sound : Sound m) (apart : t ≠ u)
    (tOpen : m.transaction? t = some tx) (uOpen : m.transaction? u = some ux)
    (independent : (projectsOf tx.log).Disjoint (projectsOf ux.log))
    (displaced : Displaced m.committed tx.log) :
    ((m.commit t).2.commit u).2.committed = ((m.commit u).2.commit t).2.committed := by
  have uStillOpen : (m.commit t).2.transaction? u = some ux :=
    (transaction?_commit_ne apart.symm).trans uOpen
  have tStillOpen : (m.commit u).2.transaction? t = some tx :=
    (transaction?_commit_ne apart).trans tOpen
  have stillDisplaced := (sound.displaced_commit_iff uOpen independent).mpr displaced
  rw [((sound.commit u).commit_of_displaced tStillOpen stillDisplaced).2]
  exact (commit_congr uOpen uStillOpen (sound.commit_of_displaced tOpen displaced).2).2

theorem diamond (sound : Sound m) (apart : t ≠ u) (tOpen : m.transaction? t = some tx)
    (uOpen : m.transaction? u = some ux)
    (independent : (projectsOf tx.log).Disjoint (projectsOf ux.log))
    (tFree : ¬ Displaced m.committed tx.log) (uFree : ¬ Displaced m.committed ux.log) :
    Diamond m.committed tx ux (m.commit t).2.committed (m.commit u).2.committed
      ((m.commit t).2.commit u).2.committed ((m.commit u).2.commit t).2.committed where
  intact := sound.intact
  txIntact := sound.rows_intact tOpen
  uxIntact := sound.rows_intact uOpen
  txBundles := by
    obtain ⟨s, -, -, history⟩ := sound.histories t tx tOpen
    exact history.bundles ▸ List.subset_append_right ..
  uxBundles := by
    obtain ⟨s, -, -, history⟩ := sound.histories u ux uOpen
    exact history.bundles ▸ List.subset_append_right ..
  independent := independent
  leftFirst := (sound.commit_of_free tOpen tFree).2
  leftThen := by
    refine ((sound.commit t).commit_of_free ((transaction?_commit_ne apart.symm).trans uOpen) ?_).2
    exact mt (sound.displaced_commit_iff tOpen fun _ left right => independent right left).mp uFree
  rightFirst := (sound.commit_of_free uOpen uFree).2
  rightThen := by
    refine ((sound.commit u).commit_of_free ((transaction?_commit_ne apart).trans tOpen) ?_).2
    exact mt (sound.displaced_commit_iff uOpen independent).mp tFree

end Sound

/-- Two open transactions that concern different projects can be committed in either order: each of
them ends as it would without the other, and the tables have the same rows in the end, but for the
ids of bundles that both have added. -/
theorem commits_commute (actions : List Action) (apart : t ≠ u)
    (tOpen : (empty.run actions).transaction? t = some tx)
    (uOpen : (empty.run actions).transaction? u = some ux)
    (independent : (projectsOf tx.log).Disjoint (projectsOf ux.log)) :
    let m := empty.run actions
    ((m.commit u).2.commit t).1 = (m.commit t).1 ∧ ((m.commit t).2.commit u).1 = (m.commit u).1 ∧
      ∃ e : Renaming, (∀ id, e id ≠ id → BothAdded m.committed tx ux id) ∧
        SameRows e ((m.commit t).2.commit u).2.committed ((m.commit u).2.commit t).2.committed := by
  intro m
  have sound : Sound m := sound_run actions
  have independentAlso : (projectsOf ux.log).Disjoint (projectsOf tx.log) :=
    fun _ left right => independent right left
  refine ⟨sound.commit_after apart tOpen uOpen independent,
    sound.commit_after apart.symm uOpen tOpen independentAlso, ?_⟩
  by_cases displaced : Displaced m.committed tx.log
  · have same := sound.committed_of_displaced apart tOpen uOpen independent displaced
    exact ⟨Equiv.refl RowId, fun _ moved => (moved rfl).elim, same ▸ sameRows_refl _⟩
  · by_cases displacedAlso : Displaced m.committed ux.log
    · have same := sound.committed_of_displaced apart.symm uOpen tOpen independentAlso displacedAlso
      exact ⟨Equiv.refl RowId, fun _ moved => (moved rfl).elim, same ▸ sameRows_refl _⟩
    · exact (sound.diamond apart tOpen uOpen independent displaced displacedAlso).sameRows

/-- Two transactions subscribe different projects to a bundle that was unknown to both. -/
def bundleByBoth : List Action :=
  [.begin 0, .begin 1, .ask (.transaction 0) (.ensureBundle "s" "b"),
    .ask (.transaction 1) (.ensureBundle "s" "b"),
    .ask (.transaction 0) (.addSubscription ⟨1⟩ (.issued (.transaction 0) 0) "v1"),
    .ask (.transaction 1) (.addSubscription ⟨2⟩ (.issued (.transaction 1) 0) "v1")]

theorem commits_commute_bundleByBoth :
    let m := empty.run bundleByBoth
    ((m.commit 0).2.commit 1).2.committed.bundles = [⟨.issued (.transaction 0) 0, "s", "b"⟩] ∧
      ((m.commit 1).2.commit 0).2.committed.bundles = [⟨.issued (.transaction 1) 0, "s", "b"⟩] ∧
      ∃ e, SameRows e ((m.commit 0).2.commit 1).2.committed
        ((m.commit 1).2.commit 0).2.committed := by
  intro m
  have independent : ([⟨1⟩] : List Uuid).Disjoint [⟨2⟩] := by simp
  obtain ⟨-, -, e, -, same⟩ :=
    commits_commute (t := 0) (u := 1) bundleByBoth (by decide) rfl rfl independent
  exact ⟨rfl, rfl, e, same⟩

end RuleCatalog.Store.Memory
