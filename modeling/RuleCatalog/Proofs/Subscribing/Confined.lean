import RuleCatalog.Catalog
import RuleCatalog.Proofs.Content.Names
import RuleCatalog.Proofs.Store.Views

/-! # What operations write

An operation of a project only looks at rows of that project and only writes such rows. Content is
written for a subscription of the project that is known to be there, and a profile only after it was
checked and its rule types were seen. `Confined` says this of a computation whatever it is answered,
as long as the answers show what is there and nothing is taken away in between.
-/

namespace RuleCatalog.Subscribing

open Store Store.Memory

/-! ## Operations -/

/-- What a project can do with the bundles of a catalog. -/
inductive Operation where
  | subscribe (project : Project) (bundle : BundleId)
  | addProfile (project : Project) (bundle : BundleId) (profile : String)

def Operation.project : Operation → Project
  | .subscribe project _ => project
  | .addProfile project _ _ => project

def Operation.bundle : Operation → BundleId
  | .subscribe _ bundle => bundle
  | .addProfile _ bundle _ => bundle

/-- The computation that an operation is with a given catalog. -/
def Operation.script (c : Catalog) : Operation → Script (Except Catalog.Error Unit)
  | .subscribe project bundle => c.subscribe project bundle
  | .addProfile project bundle profile => c.addProfile project bundle profile

/-! ## Confined computations -/

/-- Content belongs to a subscription of its project. -/
def Owned (rows : Rows) (project : Uuid) (subscription : Option RowId) : Prop :=
  ∃ s ∈ rows.subscriptions, subscription = some s.id ∧ s.project = project

/-- All rule types that a profile names exist in a project. -/
def Known (rows : Rows) (project : Uuid) (p : Profile) : Prop :=
  ∀ rule ∈ p.rules, (project, rule.ruleType) ∈ rows.ruleTypes.map ContentRow.place

/-- A request that stays within a project, asked when the tables are `rows`. -/
def Within (project : Uuid) (rows : Rows) : Request → Prop
  | .findSubscription asked .. => asked = project
  | .ensureBundle .. => True
  | .addSubscription asked .. => asked = project
  | .putRuleType content =>
    content.project = project ∧ Owned rows project content.subscription
  | .findRuleType asked _ => asked = project
  | .addProfile content =>
    content.project = project ∧ Owned rows project content.subscription ∧
      Service.checkProfile content.definition = .ok () ∧ Known rows project content.definition
  | .findProfile asked _ => asked = project

/-- A computation all whose requests stay within a project. -/
def Confined {α : Type} (project : Uuid) : Script α → Rows → Prop
  | .done _, _ => True
  | .ask r next, rows => Within project rows r ∧
    ∀ answer rows', rows.Keeps rows' → Shows rows' r answer →
      Confined project (next answer) rows'

variable {rows rows' : Rows}

theorem places_subset (kept : rows.Keeps rows') :
    rows.ruleTypes.map ContentRow.place ⊆ rows'.ruleTypes.map ContentRow.place := by
  have marks := (kept.ruleTypes.map Prod.snd).subset
  rw [List.map_map, List.map_map] at marks
  exact marks

theorem Owned.mono {project : Uuid} {subscription : Option RowId}
    (owned : Owned rows project subscription) (kept : rows.Keeps rows') :
    Owned rows' project subscription := by
  obtain ⟨s, member, own⟩ := owned
  exact ⟨s, kept.subscriptions.subset member, own⟩

theorem Known.mono {project : Uuid} {p : Profile} (known : Known rows project p)
    (kept : rows.Keeps rows') : Known rows' project p :=
  fun rule member => places_subset kept (known rule member)

theorem Within.mono {project : Uuid} {r : Request} (within : Within project rows r)
    (kept : rows.Keeps rows') : Within project rows' r := by
  cases r with
  | putRuleType content => exact ⟨within.1, within.2.mono kept⟩
  | addProfile content =>
    obtain ⟨own, owned, checked, known⟩ := within
    exact ⟨own, owned.mono kept, checked, known.mono kept⟩
  | findSubscription | ensureBundle | addSubscription | findRuleType | findProfile => exact within

namespace Confined

variable {α β : Type} {project : Uuid} {script : Script α}

theorem mono (confined : Confined project script rows) (kept : rows.Keeps rows') :
    Confined project script rows' := by
  cases script with
  | done => trivial
  | ask r next =>
    exact ⟨confined.1.mono kept, fun answer rows'' more =>
      confined.2 answer rows'' (kept.trans more)⟩

theorem andThen {f : α → Script β} (confined : Confined project script rows)
    (rest : ∀ a rows', rows.Keeps rows' → Confined project (f a) rows') :
    Confined project (script.andThen f) rows := by
  induction script generalizing rows with
  | done a => exact rest a rows (.refl rows)
  | ask r next ih =>
    exact ⟨confined.1, fun answer rows' kept shows =>
      ih answer (confined.2 answer rows' kept shows) fun a rows'' more =>
        rest a rows'' (kept.trans more)⟩

/-- A computation goes on after an answer from what its handle sees then. -/
theorem proceed {m : Memory} {h : Handle} {r : Request}
    {next : Except Store.Error r.Answer → Script α}
    (confined : ∀ rows, m.view? h = some rows → Confined project (.ask r next) rows) :
    ∀ rows, (Memory.answer h r m).2.view? h = some rows →
      Confined project (next (Memory.answer h r m).1) rows := by
  intro rows' view'
  cases view : m.view? h with
  | none =>
    rw [answer_of_closed view] at view'
    exact (Option.some_ne_none rows' (view'.symm.trans view)).elim
  | some rows =>
    obtain ⟨after, viewAfter, effect, shows⟩ := answer_effect view r
    obtain rfl : after = rows' := Option.some.inj (viewAfter.symm.trans view')
    exact (confined rows view).2 _ _ effect.keeps shows

end Confined

/-! ## Subscribing is confined -/

section Steps

variable {project : Project} {subscription : RowId}

theorem confined_writeRuleType {r : RuleType} (owned : Owned rows project.id (some subscription)) :
    Confined project.id (Service.writeRuleType project.id project.provider subscription r) rows :=
  ⟨⟨rfl, owned⟩, fun answer _ _ _ => by cases answer <;> trivial⟩

theorem confined_installRuleType {r : RuleType}
    (owned : Owned rows project.id (some subscription)) :
    Confined project.id (Service.installRuleType project.id project.provider subscription r)
      rows := by
  unfold Service.installRuleType
  cases Service.checkRuleType r with
  | error e => trivial
  | ok =>
    refine ⟨rfl, fun answer rows' kept _ => ?_⟩
    have write : Confined project.id
        (Service.writeRuleType project.id project.provider subscription r) rows' :=
      confined_writeRuleType (owned.mono kept)
    cases answer with
    | error e =>
      cases e with
      | notFound => exact write
      | unique | foreignKey | backend => trivial
    | ok there =>
      dsimp only
      split_ifs
      · trivial
      · trivial
      · exact write

theorem confined_installAll {ruleTypes : List (Except Bundle.Error RuleType)}
    (owned : Owned rows project.id (some subscription)) :
    Confined project.id (installAll project subscription ruleTypes) rows := by
  induction ruleTypes generalizing rows with
  | nil => trivial
  | cons first rest ih =>
    cases first with
    | error e => trivial
    | ok r =>
      apply (confined_installRuleType owned).andThen
      intro outcome rows' kept
      cases outcome with
      | error e => trivial
      | ok => exact ih (owned.mono kept)

theorem confined_subscribe {o : Offering} : Confined project.id (subscribe project o) rows := by
  refine ⟨rfl, fun answer rows _ _ => ?_⟩
  cases answer with
  | ok => trivial
  | error e =>
    cases e with
    | unique | foreignKey | backend => trivial
    | notFound =>
      refine ⟨trivial, fun answer rows _ _ => ?_⟩
      cases answer with
      | error e => trivial
      | ok bundle =>
        refine ⟨rfl, fun answer rows _ shows => ?_⟩
        cases answer with
        | error e => trivial
        | ok row => exact confined_installAll ⟨row, shows.1, rfl, shows.2⟩

/-! ## Creating profiles is confined -/

theorem confined_writeProfile {p : Profile} (owned : Owned rows project.id (some subscription))
    (checked : Service.checkProfile p = .ok ()) (known : Known rows project.id p) :
    Confined project.id (Service.writeProfile project.id project.provider subscription p) rows := by
  refine ⟨⟨rfl, owned, checked, known⟩, fun answer _ _ _ => ?_⟩
  cases answer with
  | ok => trivial
  | error e => cases e <;> trivial

/-- What follows the look at rule types can rely on them if all of them exist. -/
theorem confined_checkRuleTypes {β : Type} {f : Except Service.Error Unit → Script β}
    {profile : String} {names : List String}
    (refused : ∀ e rows, Confined project.id (f (.error e)) rows)
    (seen : ∀ rows', rows.Keeps rows' →
      (∀ name ∈ names, (project.id, name) ∈ rows'.ruleTypes.map ContentRow.place) →
        Confined project.id (f (.ok ())) rows') :
    Confined project.id ((Service.checkRuleTypes project.id profile names).andThen f) rows := by
  induction names generalizing rows with
  | nil => exact seen rows (.refl rows) (by simp)
  | cons name rest ih =>
    refine ⟨rfl, fun answer rows' kept shows => ?_⟩
    cases answer with
    | error e => cases e <;> exact refused _ _
    | ok there =>
      apply ih
      intro rows'' more seenRest
      apply seen rows'' (kept.trans more)
      intro other member
      rcases List.mem_cons.mp member with rfl | later
      · exact places_subset more shows
      · exact seenRest other later

theorem confined_createProfile {p : Profile} (owned : Owned rows project.id (some subscription)) :
    Confined project.id (Service.createProfile project.id project.provider subscription p)
      rows := by
  unfold Service.createProfile
  cases checked : Service.checkProfile p with
  | error e => trivial
  | ok =>
    apply confined_checkRuleTypes
    · exact fun _ _ => trivial
    · intro rows' kept seen
      apply confined_writeProfile (owned.mono kept) checked
      exact fun rule member => seen _ (Profile.mem_ruleTypeNames.mpr ⟨rule, member, rfl⟩)

theorem confined_addProfile {o : Offering} {name : String} :
    Confined project.id (addProfile project o name) rows := by
  refine ⟨rfl, fun answer rows _ shows => ?_⟩
  cases answer with
  | error e => cases e <;> trivial
  | ok row =>
    dsimp only
    cases o.profile name with
    | error e => trivial
    | ok p =>
      apply (confined_createProfile ⟨row, shows.1, rfl, shows.2⟩).andThen
      intro outcome _ _
      cases outcome <;> trivial

end Steps

/-- Every operation is confined to the project that it is for. -/
theorem Operation.confined (c : Catalog) (o : Operation) (rows : Rows) :
    Confined o.project.id (o.script c) rows := by
  cases c with
  | unused => cases o <;> trivial
  | routed routes =>
    cases o with
    | subscribe project bundle =>
      simp only [script, Catalog.subscribe]
      cases Catalog.resolve routes bundle with
      | error e => trivial
      | ok o => exact confined_subscribe.andThen fun _ _ _ => trivial
    | addProfile project bundle profile =>
      simp only [script, Catalog.addProfile]
      cases Catalog.resolve routes bundle with
      | error e => trivial
      | ok o => exact confined_addProfile.andThen fun _ _ _ => trivial

end RuleCatalog.Subscribing
