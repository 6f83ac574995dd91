import RuleCatalog.Bundle.Basic
import RuleCatalog.Proofs.Result
import RuleCatalog.Proofs.Store.Granted
import RuleCatalog.Proofs.Subscribing.Lasting
import RuleCatalog.Proofs.Subscribing.Linked
import RuleCatalog.Proofs.Subscribing.Supplied

/-! # Creating profiles

A profile of a bundle is created if and only if all that it takes is there. Whatever is missing is
noticed before anything is written, so a failure leaves the store as it is even if no transaction is
used.
-/

namespace RuleCatalog.Subscribing

open Store Store.Memory

variable {m : Memory} {h : Handle} {rows : Rows} {project : Project} {subscription : RowId}
  {p : Profile}

/-! ## Profiles that can be created -/

/-- A profile that can be created in a project. -/
structure Fit (rows : Rows) (project : Uuid) (p : Profile) : Prop where
  named : Text.isBlankText p.name = false
  rules : p.rules ≠ []
  /-- The rule types that it names exist, wherever they come from. -/
  known : Known rows project p
  free : (project, p.name) ∉ rows.profiles.map ContentRow.place

/-- What it takes to create a profile of a bundle in a project. -/
structure Creatable (rows : Rows) (project : Uuid) (b : Bundle) (name : String) (s : Subscription)
    (p : Profile) : Prop where
  subscribed : Subscribed rows s project b.manifest.metadata.space b.manifest.metadata.name
  /-- The file that goes by the name holds the profile. -/
  read : ∃ f content, b.manifest.profile? name = some f ∧
    b.files.get? (Bundle.pathOf .profiles f) = some content ∧ Profile.ofYaml content = .ok p
  fit : Fit rows project p

/-- The tables with a profile of a project that comes from a subscription. -/
def withProfile (rows : Rows) (project : Project) (subscription : RowId) (p : Profile)
    (id : RowId) : Rows :=
  { rows with profiles :=
      rows.profiles ++ [⟨⟨project.id, project.provider.id, some subscription, p⟩, id, p.name⟩] }

/-! ## Creating a profile -/

/-- Looking for rule types changes nothing. -/
theorem run_checkRuleTypes (sound : m.Sound) (view : m.view? h = some rows) (project : Uuid)
    (profile : String) (names : List String) :
    ∃ outcome,
      (Service.checkRuleTypes project profile names).run (Memory.answer h) m = (outcome, m) ∧
        (outcome = .ok () ↔
          ∀ name ∈ names, (project, name) ∈ rows.ruleTypes.map ContentRow.place) := by
  induction names with
  | nil => exact ⟨.ok (), rfl, by simp⟩
  | cons name rest ih =>
    simp only [Service.checkRuleTypes, Script.run, sound.look_ruleType view]
    cases found : rows.ruleType? project name with
    | none =>
      have absent := ContentRow.not_mem_places_of_absent found
      refine ⟨_, rfl, iff_of_false (by simp) fun all => ?_⟩
      exact absent (all name (List.mem_cons_self ..))
    | some there =>
      have present : (project, name) ∈ rows.ruleTypes.map ContentRow.place :=
        List.mem_map.mpr
          ⟨there, List.mem_of_find?_eq_some found, ContentRow.place_of_found found⟩
      obtain ⟨outcome, ran, ok_iff⟩ := ih
      refine ⟨outcome, ran, ok_iff.trans ?_⟩
      rw [List.forall_mem_cons, and_iff_right present]

theorem known_iff {project : Uuid} : Known rows project p ↔
    ∀ name ∈ p.ruleTypeNames, (project, name) ∈ rows.ruleTypes.map ContentRow.place := by
  simp only [Known, Profile.mem_ruleTypeNames, forall_exists_index, and_imp,
    forall_apply_eq_imp_iff₂]

theorem run_writeProfile (sound : m.Sound) (view : m.view? h = some rows)
    (linked : rows.linked (some subscription) = true) :
    Atomic m h ((project.id, p.name) ∉ rows.profiles.map ContentRow.place)
      (fun after => ∃ id, after = withProfile rows project subscription p id)
      ((Service.writeProfile project.id project.provider subscription p).run
        (Memory.answer h) m) := by
  simp only [Service.writeProfile, Script.run]
  by_cases free : (project.id, p.name) ∉ rows.profiles.map ContentRow.place
  · have allowed : Allows rows (Service.installed project.id project.provider subscription p) :=
      ⟨linked, free⟩
    obtain ⟨id, granted, view'⟩ := answer_addProfile view allowed
    rw [granted]
    exact atomic_ok free view' ⟨id, rfl⟩
  · cases outcome : (Memory.answer h (.addProfile
        (Service.installed project.id project.provider subscription p)) m).1 with
    | ok row => exact (free (allows_of_granted view outcome).free).elim
    | error e =>
      rw [sound.answer_of_refused outcome]
      cases e <;> exact atomic_error free

theorem run_createProfile (sound : m.Sound) (view : m.view? h = some rows)
    (linked : rows.linked (some subscription) = true) :
    Atomic m h (Fit rows project.id p)
      (fun after => ∃ id, after = withProfile rows project subscription p id)
      ((Service.createProfile project.id project.provider subscription p).run
        (Memory.answer h) m) := by
  cases checked : Service.checkProfile p with
  | error e =>
    simp only [Service.createProfile, checked, Script.run]
    refine atomic_error fun fit => ?_
    cases checked.symm.trans (checkProfile_eq_ok_iff.mpr ⟨fit.named, fit.rules⟩)
  | ok =>
    obtain ⟨named, rules⟩ := checkProfile_eq_ok_iff.mp checked
    obtain ⟨outcome, ran, ok_iff⟩ :=
      run_checkRuleTypes sound view project.id p.name p.ruleTypeNames
    rw [← known_iff] at ok_iff
    simp only [Service.createProfile, checked, Script.run_andThen, ran]
    cases outcome with
    | error e =>
      refine atomic_error fun fit => ?_
      cases ok_iff.mpr fit.known
    | ok =>
      have known := ok_iff.mp rfl
      refine (run_writeProfile sound view linked).imp ⟨?_, Fit.free⟩ fun _ _ _ => id
      exact fun free => ⟨named, rules, known, free⟩

/-! ## Documents -/

theorem document_eq_ok_iff {α : Type} {b : Bundle} {read : ByteArray → Except Yaml.Error α}
    {folder : Folder} {f : ManifestFile} {a : α} :
    b.document read folder f = .ok a ↔
      ∃ content, b.files.get? (Bundle.pathOf folder f) = some content ∧ read content = .ok a := by
  cases found : b.files.get? (Bundle.pathOf folder f) with
  | none => simp [Bundle.document, Bundle.contentOf, found, bind, Except.bind]
  | some content =>
    cases got : read content <;>
      simp [Bundle.document, Bundle.contentOf, found, got, bind, Except.bind, Except.mapError]

/-- A profile is read from the file that goes by its name. -/
theorem profile_eq_ok_iff {b : Bundle} {name : String} :
    b.profile name = .ok p ↔ ∃ f content, b.manifest.profile? name = some f ∧
      b.files.get? (Bundle.pathOf .profiles f) = some content ∧ Profile.ofYaml content = .ok p := by
  cases named : b.manifest.profile? name with
  | none => simp [Bundle.profile, named]
  | some f => simp [Bundle.profile, named, document_eq_ok_iff]

/-! ## Creating a profile of a bundle -/

/-- It makes no difference in what words a failure is told. -/
theorem atomic_told {condition : Prop} {Q : Rows → Prop}
    {script : Script (Except Service.Error Unit)} (tell : Service.Error → Error)
    (atomic : Atomic m h condition Q (script.run (Memory.answer h) m)) :
    Atomic m h condition Q
      ((script.andThen fun outcome =>
        match outcome with
        | .error e => .done (.error (tell e))
        | .ok _ => .done (.ok ())).run (Memory.answer h) m) := by
  rw [Script.run_andThen]
  generalize script.run (Memory.answer h) m = ended at atomic ⊢
  obtain ⟨outcome, m'⟩ := ended
  cases outcome with
  | error e =>
    obtain rfl := atomic.unchanged e rfl
    refine atomic_error fun met => ?_
    cases atomic.ok_iff.mpr met
  | ok =>
    obtain ⟨after, viewAfter, holds⟩ := atomic.reached rfl
    exact atomic_ok (atomic.ok_iff.mp rfl) viewAfter holds

/-- Creating a profile of a bundle succeeds if and only if the project is subscribed to the bundle,
the bundle has a profile that goes by the name, and the profile fits into the project. Then this
profile has been added, and otherwise nothing at all has changed. -/
theorem creates_profile (actions : List Action) {h : Handle} {before : Rows} (project : Project)
    (b : Bundle) (name : String) (view : (empty.run actions).view? h = some before) :
    Atomic (empty.run actions) h (∃ s p, Creatable before project.id b name s p)
      (fun after => ∃ s p id, Creatable before project.id b name s p ∧
        after = withProfile before project s.id p id)
      ((addProfile project b.offering name).run (Memory.answer h) (empty.run actions)) := by
  have sound := sound_run actions
  generalize empty.run actions = m at view sound
  have intact := sound.view_intact view
  simp only [addProfile, findSubscription, Script.run, sound.look_subscription view]
  cases found : before.subscription? project.id b.offering.metadata.space
      b.offering.metadata.name with
  | none =>
    refine atomic_error ?_
    rintro ⟨s, p, creatable⟩
    cases found.symm.trans (creatable.subscribed.found intact)
  | some s =>
    have subscribed := subscribed_of_found found
    simp only [Transaction.found]
    cases read : b.offering.profile name with
    | error e =>
      refine atomic_error ?_
      rintro ⟨s, p, creatable⟩
      cases read.symm.trans (profile_eq_ok_iff.mpr creatable.read)
    | ok p =>
      have linked : before.linked (some s.id) = true := by
        rw [Tables.linked_iff]
        rintro - ⟨⟩
        exact List.mem_map_of_mem subscribed.member
      have creatable (fit : Fit before project.id p) : Creatable before project.id b name s p :=
        ⟨subscribed, profile_eq_ok_iff.mp read, fit⟩
      refine (atomic_told .profile (run_createProfile sound view linked)).imp ⟨?_, ?_⟩ ?_
      · exact fun fit => ⟨s, p, creatable fit⟩
      · rintro ⟨s', p', creatable'⟩
        obtain rfl : p = p' :=
          Except.ok.inj (read.symm.trans (profile_eq_ok_iff.mpr creatable'.read))
        exact creatable'.fit
      · rintro after fit - ⟨id, rfl⟩
        exact ⟨s, p, id, creatable fit, rfl⟩

/-- A bundle with one profile, which names one rule type. -/
private def oneProfile : Bundle where
  manifest := ⟨⟨"stacklok", "healthcheck", "1.0.0", none⟩, [⟨"p1.yaml", []⟩], []⟩
  files := [(["profiles", "p1.yaml"], "name: p1\nrules:\n- type: r1\n".toUTF8)]

private def owner : Project := ⟨⟨1⟩, ⟨⟨2⟩, "github"⟩⟩

/-- The project is subscribed to the bundle and has the rule type. -/
private def prepared : List Action :=
  [.ask .direct (.ensureBundle "stacklok" "healthcheck"),
    .ask .direct (.addSubscription ⟨1⟩ (.issued .direct 0) "1.0.0"),
    .ask .direct (.putRuleType ⟨⟨1⟩, ⟨2⟩, some (.issued .direct 1), RuleType.named "r1"⟩)]

theorem creates_profile_oneProfile :
    let before := (empty.run prepared).committed
    let ended := (addProfile owner oneProfile.offering "p1").run (Memory.answer .direct)
      (empty.run prepared)
    ended.1 = .ok () ∧ ∃ s p id, Creatable before owner.id oneProfile "p1" s p ∧
      ended.2.view? .direct = some (withProfile before owner s.id p id) := by
  intro before ended
  have created : Atomic (empty.run prepared) .direct
      (∃ s p, Creatable before owner.id oneProfile "p1" s p) _ ended :=
    creates_profile prepared owner oneProfile "p1" rfl
  have subscribed : Subscribed before ⟨.issued .direct 1, ⟨1⟩, .issued .direct 0, "1.0.0"⟩ ⟨1⟩
      "stacklok" "healthcheck" :=
    ⟨List.mem_singleton_self _, rfl, _, List.mem_singleton_self _, rfl, rfl⟩
  have decoded : (Profile.ofYaml "name: p1\nrules:\n- type: r1\n".toUTF8).toOption =
      some { Profile.named "p1" with rules := [.ofType "r1"] } := by decide +kernel
  have fit : Fit before ⟨1⟩ { Profile.named "p1" with rules := [.ofType "r1"] } := by
    constructor
    · decide
    · exact List.cons_ne_nil _ _
    · exact fun rule member => List.mem_singleton.mpr (by rw [List.mem_singleton.mp member]; rfl)
    · exact List.not_mem_nil
  have ok := created.ok_iff.mpr
    ⟨_, _, subscribed, ⟨_, _, rfl, rfl, eq_ok_of_toOption decoded⟩, fit⟩
  obtain ⟨after, view, s, p, id, creatable, rfl⟩ := created.reached ok
  exact ⟨ok, s, p, id, creatable, view⟩

end RuleCatalog.Subscribing
