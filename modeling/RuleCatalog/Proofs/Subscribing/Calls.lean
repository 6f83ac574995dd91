import Mathlib.Data.List.Infix
import RuleCatalog.Catalog
import RuleCatalog.Proofs.Content.Names
import RuleCatalog.Proofs.Store.Transcript

/-! # What operations ask of a store

Which requests an operation on a bundle makes is planned: nothing is left out and nothing is done in
another order, whatever the store answers. The first answer that is a failure ends the operation and
is what the caller is told, by the step to which the request belongs. If no answer is a failure, the
whole plan is carried out, and then only the documents of the bundle can be at fault.
-/

namespace RuleCatalog.Subscribing

open Store

/-! ## Schedules -/

/-- What an operation has to do. -/
structure Schedule where
  /-- The requests in order. -/
  plan : List Request
  /-- Whether an answer is a failure, and which one. -/
  failure? : Exchange → Option Error
  /-- The step to which a request with its answer belongs. -/
  step : Exchange → Step
  /-- The step to which the documents of the bundle belong. -/
  contentStep : Step
  /-- How the operation ends if no answer is a failure. -/
  verdict : Except Error Unit

/-- Calls are made as scheduled, up to the first failure. -/
structure Schedule.Followed (w : Schedule) (calls : List Exchange) (outcome : Except Error Unit) :
    Prop where
  /-- Nothing is asked out of order, and nothing is left out on the way. -/
  planned : calls.map Exchange.request <+: w.plan
  /-- Nothing is asked after a failure. -/
  stops : ∀ e ∈ calls.dropLast, w.failure? e = none
  /-- A failure is told as what it is, by its step. -/
  told : ∀ e ∈ calls, ∀ error, w.failure? e = some error →
    outcome = .error error ∧ error.step = w.step e
  /-- Without a failure nothing is left out at all. -/
  finished : (∀ e ∈ calls, w.failure? e = none) →
    calls.map Exchange.request = w.plan ∧ outcome = w.verdict

/-- The step that has failed: the one of the first failure, or else the one of the documents. -/
def Schedule.blamed (w : Schedule) (calls : List Exchange) : Step :=
  match calls.find? fun e => (w.failure? e).isSome with
  | some e => w.step e
  | none => w.contentStep

namespace Schedule.Followed

variable {plan : List Request} {failure? : Exchange → Option Error} {step : Exchange → Step}
  {content : Step} {verdict outcome : Except Error Unit} {r : Request}
  {answer : Except Store.Error r.Answer} {calls : List Exchange}

theorem done : Followed ⟨[], failure?, step, content, verdict⟩ [] verdict := by
  constructor <;> simp

/-- A failure ends the operation. -/
theorem failed {error : Error} (failure : failure? ⟨r, answer⟩ = some error)
    (told : error.step = step ⟨r, answer⟩) :
    Followed ⟨r :: plan, failure?, step, content, verdict⟩ [⟨r, answer⟩] (.error error) where
  planned := by simp
  stops := by simp
  told := by
    intro e member otherError otherFailure
    obtain rfl := List.mem_singleton.mp member
    obtain rfl : error = otherError := Option.some.inj (failure.symm.trans otherFailure)
    exact ⟨rfl, told⟩
  finished passed := by
    have passedHere : failure? ⟨r, answer⟩ = none := passed _ (List.mem_singleton_self _)
    exact (Option.some_ne_none error (failure.symm.trans passedHere)).elim

/-- With any other answer the operation goes on. -/
theorem passed (passed : failure? ⟨r, answer⟩ = none)
    (rest : Followed ⟨plan, failure?, step, content, verdict⟩ calls outcome) :
    Followed ⟨r :: plan, failure?, step, content, verdict⟩ (⟨r, answer⟩ :: calls) outcome where
  planned := by simpa using rest.planned
  stops := by
    intro e member
    cases calls with
    | nil => simp at member
    | cons next later =>
      rcases List.mem_cons.mp member with rfl | member
      · exact passed
      · exact rest.stops e member
  told := by
    intro e member error failure
    rcases List.mem_cons.mp member with rfl | member
    · exact (Option.some_ne_none error (failure.symm.trans passed)).elim
    · exact rest.told e member error failure
  finished allPassed := by
    obtain ⟨whole, ends⟩ := rest.finished fun e member =>
      allPassed e (List.mem_cons_of_mem _ member)
    exact ⟨congrArg (List.cons r) whole, ends⟩

/-- An error tells the step that has failed. -/
theorem step_eq {w : Schedule} (followed : w.Followed calls outcome)
    (content : ∀ error, w.verdict = .error error → error.step = w.contentStep) {error : Error}
    (fails : outcome = .error error) : error.step = w.blamed calls := by
  unfold blamed
  cases found : calls.find? fun e => (w.failure? e).isSome with
  | some e =>
    have isFailure := List.find?_some (p := fun e => (w.failure? e).isSome) found
    obtain ⟨failure, isFailure⟩ := Option.isSome_iff_exists.mp isFailure
    obtain ⟨isTold, step⟩ := followed.told e (List.mem_of_find?_eq_some found) failure isFailure
    cases isTold.symm.trans fails
    exact step
  | none =>
    have passed : ∀ e ∈ calls, w.failure? e = none := fun e member =>
      Option.not_isSome_iff_eq_none.mp (List.find?_eq_none.mp found e member)
    exact content error ((followed.finished passed).2.symm.trans fails)

end Schedule.Followed

/-! ## Subscribing -/

/-- The failures of subscribing. It is none if there is no subscription or no rule type yet, but it
is one if there is a rule type of another subscription than the one that was added. -/
def subscribeFailure? (subscription : RowId) : Exchange → Option Error
  | ⟨.findSubscription .., .error e⟩ => if e = .notFound then none else some (.query e)
  | ⟨.ensureBundle .., .error e⟩ => some (.bundle e)
  | ⟨.addSubscription .., .error e⟩ => some (.subscription e)
  | ⟨.findRuleType _ name, .ok there⟩ =>
    if there.subscription = some subscription then none
    else some (.ruleTypes (.service (.foreignRuleType name)))
  | ⟨.findRuleType .., .error e⟩ =>
    if e = .notFound then none else some (.ruleTypes (.service (.store e)))
  | ⟨.putRuleType .., .error e⟩ => some (.ruleTypes (.service (.store e)))
  | _ => none

/-- The step of subscribing to which a request belongs. -/
def subscribeStep (e : Exchange) : Step :=
  match e.request with
  | .findSubscription .. => .query
  | .ensureBundle .. => .bundle
  | .addSubscription .. => .subscription
  | _ => .ruleTypes

/-- The rule types up to the first document that is broken or makes no sense. -/
def usable : List (Except Bundle.Error RuleType) → List RuleType
  | .ok r :: rest => if Service.checkRuleType r = .ok () then r :: usable rest else []
  | _ => []

/-- What is wrong with the first such document. -/
def contentVerdict : List (Except Bundle.Error RuleType) → Except Error Unit
  | [] => .ok ()
  | .error e :: _ => .error (.ruleTypes (.bundle e))
  | .ok r :: rest =>
    match Service.checkRuleType r with
    | .error e => .error (.ruleTypes (.service e))
    | .ok _ => contentVerdict rest

/-- The requests that install rule types: each is looked up, and then put at most once. -/
inductive InstallPlan (project : Project) (subscription : RowId) :
    List RuleType → List Request → Prop
  | nil : InstallPlan project subscription [] []
  | looked {r rest plan} (later : InstallPlan project subscription rest plan) :
      InstallPlan project subscription (r :: rest) (.findRuleType project.id r.name :: plan)
  | put {r rest plan} (later : InstallPlan project subscription rest plan) :
      InstallPlan project subscription (r :: rest) (.findRuleType project.id r.name ::
        .putRuleType (Service.installed project.id project.provider subscription r) :: plan)

/-- What subscribing has to do, as the first answers have it. -/
inductive SubscribeSchedule (project : Project) (o : Offering) (calls : List Exchange) :
    Schedule → Prop
  /-- A project that is subscribed keeps what it has. -/
  | subscribed {row : Subscription} (subscription : RowId)
      (found : calls[0]? = some ⟨findSubscription project o.metadata, .ok row⟩) :
      SubscribeSchedule project o calls
        ⟨[findSubscription project o.metadata], subscribeFailure? subscription, subscribeStep,
          .ruleTypes, .ok ()⟩
  /-- Otherwise the bundle is made known, the subscription to it is added under the id of the
  bundle, and the rule types are installed under the id of the subscription. -/
  | installing (bundle subscription : RowId) {installs : List Request}
      (missing : ∀ row, calls[0]? ≠ some ⟨findSubscription project o.metadata, .ok row⟩)
      (known : ∀ row, calls[1]? =
        some ⟨.ensureBundle o.metadata.space o.metadata.name, .ok row⟩ → row.id = bundle)
      (added : ∀ row, calls[2]? =
        some ⟨.addSubscription project.id bundle o.metadata.version, .ok row⟩ →
          row.id = subscription)
      (plan : InstallPlan project subscription (usable o.ruleTypes) installs) :
      SubscribeSchedule project o calls
        ⟨findSubscription project o.metadata ::
            .ensureBundle o.metadata.space o.metadata.name ::
            .addSubscription project.id bundle o.metadata.version :: installs,
          subscribeFailure? subscription, subscribeStep, .ruleTypes, contentVerdict o.ruleTypes⟩

theorem step_of_contentVerdict {ruleTypes : List (Except Bundle.Error RuleType)} {error : Error}
    (flawed : contentVerdict ruleTypes = .error error) : error.step = .ruleTypes := by
  induction ruleTypes with
  | nil => cases flawed
  | cons first rest ih =>
    cases first with
    | error e =>
      cases flawed
      rfl
    | ok r =>
      unfold contentVerdict at flawed
      split at flawed
      · cases flawed
        rfl
      · exact ih flawed

theorem SubscribeSchedule.step_of_verdict {project : Project} {o : Offering}
    {calls : List Exchange} {w : Schedule} (scheduled : SubscribeSchedule project o calls w) :
    ∀ error, w.verdict = .error error → error.step = w.contentStep := by
  cases scheduled with
  | subscribed => exact fun _ flawed => nomatch flawed
  | installing => exact fun _ => step_of_contentVerdict

section Subscribe

variable {σ : Type} {h : Handler σ} {project : Project} {subscription : RowId}

theorem InstallPlan.exists (project : Project) (subscription : RowId) (ruleTypes : List RuleType) :
    ∃ plan, InstallPlan project subscription ruleTypes plan := by
  induction ruleTypes with
  | nil => exact ⟨[], .nil⟩
  | cons r rest ih =>
    obtain ⟨plan, later⟩ := ih
    exact ⟨_, .looked later⟩

/-- A computation that installs rule types as planned. -/
def Installs (h : Handler σ) (project : Project) (subscription : RowId) (ruleTypes : List RuleType)
    (verdict : Except Error Unit) (script : Script (Except Error Unit)) : Prop :=
  ∀ s, ∃ plan, InstallPlan project subscription ruleTypes plan ∧
    Schedule.Followed ⟨plan, subscribeFailure? subscription, subscribeStep, .ruleTypes, verdict⟩
      (script.transcript h s) (script.run h s).1

/-- What follows the installation of one rule type. -/
def afterInstall (next : Script (Except Error Unit)) :
    Except Service.Error Unit → Script (Except Error Unit)
  | .error e => .done (.error (.ruleTypes (.service e)))
  | .ok _ => next

theorem followed_write {ruleTypes : List RuleType} {verdict : Except Error Unit}
    {next : Script (Except Error Unit)} (r : RuleType)
    (later : Installs h project subscription ruleTypes verdict next) (s : σ) :
    ∃ plan, InstallPlan project subscription ruleTypes plan ∧
      Schedule.Followed
        ⟨.putRuleType (Service.installed project.id project.provider subscription r) :: plan,
          subscribeFailure? subscription, subscribeStep, .ruleTypes, verdict⟩
        (((Service.writeRuleType project.id project.provider subscription r).andThen
          (afterInstall next)).transcript h s)
        (((Service.writeRuleType project.id project.provider subscription r).andThen
          (afterInstall next)).run h s).1 := by
  simp only [Service.writeRuleType, Script.andThen, Script.transcript, Script.run]
  obtain ⟨answer, s⟩ :=
    h (.putRuleType (Service.installed project.id project.provider subscription r)) s
  cases answer with
  | error e =>
    obtain ⟨plan, anyPlan⟩ := InstallPlan.exists project subscription ruleTypes
    exact ⟨plan, anyPlan, .failed rfl rfl⟩
  | ok kept =>
    obtain ⟨plan, planned, followed⟩ := later s
    exact ⟨plan, planned, .passed rfl followed⟩

theorem installs_one {ruleTypes : List RuleType} {verdict : Except Error Unit}
    {next : Script (Except Error Unit)} {r : RuleType} (checked : Service.checkRuleType r = .ok ())
    (later : Installs h project subscription ruleTypes verdict next) :
    Installs h project subscription (r :: ruleTypes) verdict
      ((Service.installRuleType project.id project.provider subscription r).andThen
        (afterInstall next)) := by
  intro s
  obtain ⟨others, anyPlan⟩ := InstallPlan.exists project subscription ruleTypes
  simp only [Service.installRuleType, checked, Script.andThen, Script.transcript, Script.run]
  obtain ⟨answer, s⟩ := h (.findRuleType project.id r.name) s
  cases answer with
  | error e =>
    cases e with
    | notFound =>
      obtain ⟨plan, planned, followed⟩ := followed_write r later s
      exact ⟨_, .put planned, .passed rfl followed⟩
    | unique | foreignKey | backend => exact ⟨_, .looked anyPlan, .failed rfl rfl⟩
  | ok there =>
    by_cases own : there.subscription = some subscription
    · simp only [own, ne_eq, not_true_eq_false, if_false]
      split
      · obtain ⟨plan, planned, followed⟩ := later s
        exact ⟨_, .looked planned, .passed (if_pos own) followed⟩
      · obtain ⟨plan, planned, followed⟩ := followed_write r later s
        exact ⟨_, .put planned, .passed (if_pos own) followed⟩
    · simp only [ne_eq, own, not_false_eq_true, if_true]
      exact ⟨_, .looked anyPlan, .failed (if_neg own) rfl⟩

theorem installs_all (ruleTypes : List (Except Bundle.Error RuleType)) :
    Installs h project subscription (usable ruleTypes) (contentVerdict ruleTypes)
      (installAll project subscription ruleTypes) := by
  induction ruleTypes with
  | nil => exact fun s => ⟨[], .nil, .done⟩
  | cons first rest ih =>
    cases first with
    | error e => exact fun s => ⟨[], .nil, .done⟩
    | ok r =>
      simp only [usable, contentVerdict]
      cases checked : Service.checkRuleType r with
      | error e =>
        simp only [installAll, Service.installRuleType, checked]
        exact fun s => ⟨[], .nil, .done⟩
      | ok => exact installs_one checked ih

theorem followed_subscribe (h : Handler σ) (project : Project) (o : Offering) (s : σ) :
    ∃ schedule, SubscribeSchedule project o ((subscribe project o).transcript h s) schedule ∧
      schedule.Followed ((subscribe project o).transcript h s)
        ((subscribe project o).run h s).1 := by
  -- ids that no answer has told yet can be any
  let untold : RowId := .issued .direct 0
  obtain ⟨installs, anyPlan⟩ := InstallPlan.exists project untold (usable o.ruleTypes)
  simp only [subscribe, Script.transcript, Script.run]
  obtain ⟨answer, s⟩ := h (findSubscription project o.metadata) s
  cases answer with
  | ok row => exact ⟨_, .subscribed untold rfl, .passed rfl .done⟩
  | error e =>
    cases e with
    | unique | foreignKey | backend =>
      refine ⟨_, .installing untold untold ?_ ?_ ?_ anyPlan, .failed rfl rfl⟩ <;>
        rintro row ⟨⟩
    | notFound =>
      simp only [Script.transcript, Script.run]
      obtain ⟨answer, s⟩ := h (.ensureBundle o.metadata.space o.metadata.name) s
      cases answer with
      | error e =>
        refine ⟨_, .installing untold untold ?_ ?_ ?_ anyPlan,
          .passed rfl (.failed rfl rfl)⟩ <;> rintro row ⟨⟩
      | ok bundle =>
        simp only [Script.transcript, Script.run]
        obtain ⟨answer, s⟩ := h (.addSubscription project.id bundle.id o.metadata.version) s
        cases answer with
        | error e =>
          refine ⟨_, .installing bundle.id untold ?_ ?_ ?_ anyPlan,
            .passed rfl (.passed rfl (.failed rfl rfl))⟩ <;> rintro row ⟨⟩
          rfl
        | ok row =>
          obtain ⟨installs, plan, followed⟩ := installs_all o.ruleTypes s
          refine ⟨_, .installing bundle.id row.id ?_ ?_ ?_ plan,
            .passed rfl (.passed rfl (.passed rfl followed))⟩ <;> rintro row ⟨⟩ <;> rfl

end Subscribe

/-! ## Creating profiles -/

/-- The failures of creating a profile. Here it is one as well if there is no subscription or if a
rule type is missing. -/
def addProfileFailure? (bundle : BundleId) (profile : String) : Exchange → Option Error
  | ⟨.findSubscription .., .error .notFound⟩ => some (.notSubscribed bundle)
  | ⟨.findSubscription .., .error e⟩ => some (.query e)
  | ⟨.findRuleType _ name, .error .notFound⟩ => some (.profile (.unknownRuleType profile name))
  | ⟨.findRuleType .., .error e⟩ => some (.profile (.store e))
  | ⟨.addProfile _, .error (.unique _)⟩ => some (.profile (.secondProfile profile))
  | ⟨.addProfile _, .error e⟩ => some (.profile (.store e))
  | _ => none

/-- The step of creating a profile to which a request with its answer belongs. -/
def addProfileStep : Exchange → Step
  | ⟨.findSubscription .., .error .notFound⟩ => .subscribed
  | ⟨.findSubscription .., _⟩ => .query
  | _ => .profile

/-- What creating a profile has to do, as the profile and the first answer have it. -/
inductive ProfileSchedule (project : Project) (o : Offering) (name : String)
    (calls : List Exchange) : Schedule → Prop
  /-- Nothing is asked for a profile that the bundle does not have or that cannot be read. -/
  | unreadable {e : Bundle.Error} (profile : String) (missing : o.profile name = .error e) :
      ProfileSchedule project o name calls
        ⟨[findSubscription project o.metadata], addProfileFailure? o.metadata.id profile,
          addProfileStep, .bundleProfile, .error (.bundleProfile e)⟩
  | senseless {p : Profile} {e : Service.Error} (offered : o.profile name = .ok p)
      (flawed : Service.checkProfile p = .error e) :
      ProfileSchedule project o name calls
        ⟨[findSubscription project o.metadata], addProfileFailure? o.metadata.id p.name,
          addProfileStep, .profile, .error (.profile e)⟩
  /-- Otherwise all rule types that the profile names are looked up, each of them once and in
  ascending order, and the profile is added under the id of the subscription. -/
  | creating {p : Profile} {names : List String} (subscription : RowId)
      (offered : o.profile name = .ok p) (checked : Service.checkProfile p = .ok ())
      (ascending : names.Pairwise (· < ·))
      (named : ∀ ruleType, ruleType ∈ names ↔ ∃ rule ∈ p.rules, rule.ruleType = ruleType)
      (found : ∀ row, calls[0]? = some ⟨findSubscription project o.metadata, .ok row⟩ →
        row.id = subscription) :
      ProfileSchedule project o name calls
        ⟨findSubscription project o.metadata :: (names.map (.findRuleType project.id) ++
            [.addProfile (Service.installed project.id project.provider subscription p)]),
          addProfileFailure? o.metadata.id p.name, addProfileStep, .profile, .ok ()⟩

theorem ProfileSchedule.step_of_verdict {project : Project} {o : Offering} {name : String}
    {calls : List Exchange} {w : Schedule} (scheduled : ProfileSchedule project o name calls w) :
    ∀ error, w.verdict = .error error → error.step = w.contentStep := by
  cases scheduled <;> rintro error ⟨⟩ <;> rfl

section AddProfile

variable {σ : Type} {h : Handler σ} {project : Project} {subscription : RowId} {bundle : BundleId}
  {p : Profile}

/-- What follows the look at the rule types of a profile. -/
def afterCheck (next : Script (Except Service.Error Unit)) :
    Except Service.Error Unit → Script (Except Service.Error Unit)
  | .error e => .done (.error e)
  | .ok _ => next

/-- What follows the creation of a profile. -/
def afterCreation : Except Service.Error Unit → Script (Except Error Unit)
  | .error e => .done (.error (.profile e))
  | .ok _ => .done (.ok ())

theorem followed_writeProfile (s : σ) :
    Schedule.Followed
      ⟨[.addProfile (Service.installed project.id project.provider subscription p)],
        addProfileFailure? bundle p.name, addProfileStep, .profile, .ok ()⟩
      (((Service.writeProfile project.id project.provider subscription p).andThen
        afterCreation).transcript h s)
      (((Service.writeProfile project.id project.provider subscription p).andThen
        afterCreation).run h s).1 := by
  simp only [Service.writeProfile, Script.andThen, Script.transcript, Script.run]
  obtain ⟨answer, s⟩ :=
    h (.addProfile (Service.installed project.id project.provider subscription p)) s
  cases answer with
  | error e => cases e <;> exact .failed rfl rfl
  | ok row => exact .passed rfl .done

theorem followed_checks (names : List String) (s : σ) :
    Schedule.Followed
      ⟨names.map (.findRuleType project.id) ++
          [.addProfile (Service.installed project.id project.provider subscription p)],
        addProfileFailure? bundle p.name, addProfileStep, .profile, .ok ()⟩
      ((((Service.checkRuleTypes project.id p.name names).andThen (afterCheck
        (Service.writeProfile project.id project.provider subscription p))).andThen
          afterCreation).transcript h s)
      ((((Service.checkRuleTypes project.id p.name names).andThen (afterCheck
        (Service.writeProfile project.id project.provider subscription p))).andThen
          afterCreation).run h s).1 := by
  induction names generalizing s with
  | nil => exact followed_writeProfile s
  | cons name rest ih =>
    simp only [Service.checkRuleTypes, Script.andThen, Script.transcript, Script.run]
    obtain ⟨answer, s⟩ := h (.findRuleType project.id name) s
    cases answer with
    | error e => cases e <;> exact .failed rfl rfl
    | ok there => exact .passed rfl (ih s)

theorem followed_addProfile (h : Handler σ) (project : Project) (o : Offering) (name : String)
    (s : σ) :
    ∃ schedule, ProfileSchedule project o name ((addProfile project o name).transcript h s)
        schedule ∧
      schedule.Followed ((addProfile project o name).transcript h s)
        ((addProfile project o name).run h s).1 := by
  simp only [addProfile, Script.transcript, Script.run]
  obtain ⟨answer, s⟩ := h (findSubscription project o.metadata) s
  cases offered : o.profile name with
  | error e =>
    cases answer with
    | error failure =>
      refine ⟨_, .unreadable name offered, ?_⟩
      cases failure <;> exact .failed rfl rfl
    | ok row => exact ⟨_, .unreadable name offered, .passed rfl .done⟩
  | ok p =>
    cases checked : Service.checkProfile p with
    | error e =>
      cases answer with
      | error failure =>
        refine ⟨_, .senseless offered checked, ?_⟩
        cases failure <;> exact .failed rfl rfl
      | ok row =>
        simp only [Service.createProfile, checked]
        exact ⟨_, .senseless offered checked, .passed rfl .done⟩
    | ok =>
      have ascending := p.ascending_ruleTypeNames
      cases answer with
      | error failure =>
        refine ⟨_, .creating (.issued .direct 0) offered checked ascending
          (fun _ => Profile.mem_ruleTypeNames) ?_, ?_⟩
        · cases failure <;> rintro row ⟨⟩
        · cases failure <;> exact .failed rfl rfl
      | ok row =>
        simp only [Service.createProfile, checked]
        refine ⟨_, .creating row.id offered checked ascending
          (fun _ => Profile.mem_ruleTypeNames) ?_, ?_⟩
        · rintro row ⟨⟩
          rfl
        · exact .passed rfl (followed_checks p.ruleTypeNames s)

end AddProfile

/-! ## Operations of a catalog -/

/-- What a computation asks of a store and how it ends. What it asks is what is recorded. -/
structure Goes {σ α : Type} (h : Handler σ) (s : σ) (script : Script α) (calls : List Exchange)
    (result : α) : Prop where
  asked : script.transcript h s = calls
  recorded : (script.run h.recorded (s, [])).2.2 = calls.map Exchange.request
  result : (script.run h s).1 = result

theorem goes_self {σ α : Type} (h : Handler σ) (s : σ) (script : Script α) :
    Goes h s script (script.transcript h s) (script.run h s).1 :=
  ⟨rfl, by simp [Script.run_recorded], rfl⟩

/-- Telling another result does not change what is asked. -/
theorem Goes.told {σ α β : Type} {h : Handler σ} {s : σ} {script : Script α}
    {calls : List Exchange} {result : α} (goes : Goes h s script calls result) (f : α → β) :
    Goes h s (script.andThen fun a => .done (f a)) calls (f result) := by
  obtain ⟨rfl, -, rfl⟩ := goes
  have same : (script.andThen fun a => .done (f a)).transcript h s = script.transcript h s := by
    simp [Script.transcript_andThen, Script.transcript]
  refine ⟨same, ?_, ?_⟩
  · simp [Script.run_recorded, same]
  · simp [Script.run_andThen, Script.run]

/-- An operation of a catalog goes as scheduled, and its error tells the step that has failed. -/
structure GoesAsScheduled {σ : Type} (h : Handler σ) (s : σ)
    (script : Script (Except Catalog.Error Unit)) (wrap : Error → Catalog.Error) (w : Schedule)
    (calls : List Exchange) (outcome : Except Error Unit) : Prop where
  goes : Goes h s script calls (outcome.mapError wrap)
  followed : w.Followed calls outcome
  step : ∀ error, outcome.mapError wrap = .error error → error.step = w.blamed calls

theorem goesAsScheduled {σ : Type} {h : Handler σ} {s : σ} {script : Script (Except Error Unit)}
    {wrap : Error → Catalog.Error} {w : Schedule} {calls : List Exchange}
    {outcome : Except Error Unit} (goes : Goes h s script calls outcome)
    (followed : w.Followed calls outcome)
    (content : ∀ error, w.verdict = .error error → error.step = w.contentStep)
    (sameStep : ∀ error, (wrap error).step = error.step) :
    GoesAsScheduled h s (script.andThen fun outcome => .done (outcome.mapError wrap)) wrap w calls
      outcome where
  goes := goes.told (·.mapError wrap)
  followed := followed
  step := by
    intro error fails
    cases outcome with
    | ok => cases fails
    | error inner =>
      cases fails
      exact (sameStep inner).trans (followed.step_eq content rfl)

/-- How the operations on the bundle of an id go with a store that answers as it likes. -/
inductive Accounted {σ : Type} (h : Handler σ) (s : σ) (routes : Routes) (project : Project)
    (id : BundleId) (name : String) : Prop
  /-- Nothing is asked for a bundle that is unknown or cannot be fetched. -/
  | unresolved (e : Catalog.Error) (resolved : Catalog.resolve routes id = .error e)
      (step : e.step = if (routes.lookup id).isNone then .route else .fetch)
      (subscribe : Goes h s ((Catalog.routed routes).subscribe project id) [] (.error e))
      (addProfile : Goes h s ((Catalog.routed routes).addProfile project id name) [] (.error e))
  | resolved (o : Offering) (resolved : Catalog.resolve routes id = .ok o)
      (subscribe : ∃ w calls outcome, SubscribeSchedule project o calls w ∧
        GoesAsScheduled h s ((Catalog.routed routes).subscribe project id) (.subscribe id) w calls
          outcome)
      (addProfile : ∃ w calls outcome, ProfileSchedule project o name calls w ∧
        GoesAsScheduled h s ((Catalog.routed routes).addProfile project id name)
          (.addProfile id name) w calls outcome)

theorem step_of_resolve {routes : Routes} {id : BundleId} {e : Catalog.Error}
    (resolved : Catalog.resolve routes id = .error e) :
    e.step = if (routes.lookup id).isNone then .route else .fetch := by
  unfold Catalog.resolve at resolved
  split at resolved
  next found =>
    cases resolved
    simp [found, Catalog.Error.step]
  next source found =>
    cases fetched : source.fetch id with
    | ok o => cases (congrArg (Except.mapError _) fetched).symm.trans resolved
    | error failure =>
      cases (congrArg (Except.mapError _) fetched).symm.trans resolved
      simp [found, Catalog.Error.step]

/-- Every request of an operation is accounted for, whatever the store answers. -/
theorem operations_accounted_for {σ : Type} (h : Handler σ) (s : σ) (routes : Routes)
    (project : Project) (id : BundleId) (name : String) :
    Accounted h s routes project id name := by
  cases resolved : Catalog.resolve routes id with
  | error e =>
    refine .unresolved e resolved (step_of_resolve resolved) ?_ ?_
    · simp only [Catalog.subscribe, resolved]
      exact ⟨rfl, rfl, rfl⟩
    · simp only [Catalog.addProfile, resolved]
      exact ⟨rfl, rfl, rfl⟩
  | ok o =>
    refine .resolved o resolved ?_ ?_
    · obtain ⟨w, scheduled, followed⟩ := followed_subscribe h project o s
      have goes := goesAsScheduled (goes_self h s _) followed scheduled.step_of_verdict
        (fun error => (rfl : (Catalog.Error.subscribe id error).step = error.step))
      simp only [Catalog.subscribe, resolved]
      exact ⟨w, _, _, scheduled, goes⟩
    · obtain ⟨w, scheduled, followed⟩ := followed_addProfile h project o name s
      have goes := goesAsScheduled (goes_self h s _) followed scheduled.step_of_verdict
        (fun error => (rfl : (Catalog.Error.addProfile id name error).step = error.step))
      simp only [Catalog.addProfile, resolved]
      exact ⟨w, _, _, scheduled, goes⟩

end RuleCatalog.Subscribing
