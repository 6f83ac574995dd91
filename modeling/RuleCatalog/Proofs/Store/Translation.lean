import Mathlib.Data.Prod.Basic
import Mathlib.Logic.Equiv.Basic
import RuleCatalog.Proofs.Store.Integrity

/-! # Tables under other ids

Ids say nothing but which row is meant, and definitions are not looked into. So tables can be
translated: their ids are exchanged for others, and their definitions are put into another notation.
Looking up and changing do the same before and after a translation, whatever words the two schemas
have for rules that are broken.
-/

namespace RuleCatalog.Store

/-! ## Rows -/

/-- Other names for ids. -/
abbrev Renaming := RowId ≃ RowId

namespace Renaming

variable (e : Renaming)

def bundle (b : BundleRow) : BundleRow := { b with id := e b.id }

def subscription (s : Subscription) : Subscription := { s with id := e s.id, bundle := e s.bundle }

def newContent {α : Type} (c : NewContent α) : NewContent α :=
  { c with subscription := c.subscription.map e }

def content {α : Type} (r : ContentRow α) : ContentRow α :=
  ⟨e.newContent r.toNewContent, e r.id, r.name⟩

/-- A request with other ids. -/
def request : Request → Request
  | .findSubscription project space name => .findSubscription project space name
  | .ensureBundle space name => .ensureBundle space name
  | .addSubscription project bundle version => .addSubscription project (e bundle) version
  | .putRuleType c => .putRuleType (e.newContent c)
  | .findRuleType project name => .findRuleType project name
  | .addProfile c => .addProfile (e.newContent c)
  | .findProfile project name => .findProfile project name

/-- The row that answers the request with other ids. -/
def answer : (r : Request) → r.Answer → (e.request r).Answer
  | .findSubscription .., s => e.subscription s
  | .ensureBundle .., b => e.bundle b
  | .addSubscription .., s => e.subscription s
  | .putRuleType _, r => e.content r
  | .findRuleType .., r => e.content r
  | .addProfile _, r => e.content r
  | .findProfile .., r => e.content r

/-- A row with other ids and its definition in another notation. -/
def written {α β : Type} (write : α → β) (r : ContentRow α) : ContentRow β :=
  (e.content r).withDefinition (write r.definition)

variable {e}

@[simp] theorem beq_ids {a b : RowId} : (e a == e b) = (a == b) := by
  rw [Bool.eq_iff_iff, beq_iff_eq, beq_iff_eq, e.apply_eq_iff_eq]

end Renaming

/-- Different things can be exchanged for different things, and nothing else moves. -/
theorem exists_perm_of_pairs {α : Type} [DecidableEq α] {pairs : List (α × α)}
    (first : (pairs.map Prod.fst).Nodup) (second : (pairs.map Prod.snd).Nodup) :
    ∃ e : Equiv.Perm α, (∀ p ∈ pairs, e p.1 = p.2) ∧
      ∀ a, e a ≠ a → ∃ p ∈ pairs, p.1 ≠ p.2 ∧ (a = p.1 ∨ a = p.2) := by
  induction pairs with
  | nil => exact ⟨Equiv.refl α, nofun, fun a moved => (moved rfl).elim⟩
  | cons p rest ih =>
    obtain ⟨here, first⟩ := List.nodup_cons.mp first
    obtain ⟨there, second⟩ := List.nodup_cons.mp second
    obtain ⟨e, exchanged, others⟩ := ih first second
    refine ⟨e.trans (Equiv.swap (e p.1) p.2), ?_, ?_⟩
    · intro q member
      rcases List.mem_cons.mp member with rfl | member
      · simp
      · have apart : e q.1 ≠ e p.1 := fun same =>
          here (List.mem_map.mpr ⟨q, member, e.injective same⟩)
        have apartAlso : e q.1 ≠ p.2 := fun same =>
          there (List.mem_map.mpr ⟨q, member, (exchanged q member).symm.trans same⟩)
        exact (Equiv.swap_apply_of_ne_of_ne apart apartAlso).trans (exchanged q member)
    · intro a moved
      by_cases still : e a = a
      · -- so it is the last exchange that moves it
        have swapped : Equiv.swap (e p.1) p.2 a ≠ a := by simpa [still] using moved
        obtain ⟨apart, isEither⟩ := Equiv.swap_apply_ne_self_iff.mp swapped
        refine ⟨p, List.mem_cons_self .., ?_, ?_⟩
        · intro same
          rcases isEither with rfl | rfl
          · exact apart ((e.injective still).trans same)
          · exact apart ((congrArg e same).trans still)
        · exact isEither.imp_left fun same => e.injective (still.trans same)
      · obtain ⟨q, member, differ⟩ := others a still
        exact ⟨q, List.mem_cons_of_mem _ member, differ⟩

/-! ## Tables -/

/-- How tables are translated: other ids, and definitions in another notation. -/
structure Translation (ρ π ρ' π' : Type) where
  ids : Renaming
  ruleType : ρ → ρ'
  profile : π → π'

variable {ρ π ρ' π' : Type} (e : Translation ρ π ρ' π') {t t' : Tables ρ π}

/-- The translation of tables. -/
def Translation.tables (t : Tables ρ π) : Tables ρ' π' :=
  ⟨t.bundles.map e.ids.bundle, t.subscriptions.map e.ids.subscription,
    t.ruleTypes.map (e.ids.written e.ruleType), t.profiles.map (e.ids.written e.profile)⟩

namespace Translation

/-! ### Looking up -/

theorem bundle?_tables (space name : String) :
    (e.tables t).bundle? space name = (t.bundle? space name).map e.ids.bundle := by
  simp only [Tables.bundle?, tables, List.find?_map]
  rfl

theorem subscription?_tables (project : Uuid) (space name : String) :
    (e.tables t).subscription? project space name =
      (t.subscription? project space name).map e.ids.subscription := by
  simp only [Tables.subscription?, bundle?_tables]
  cases t.bundle? space name with
  | none => rfl
  | some b =>
    simp only [Option.map_some, Option.bind_some, tables, List.find?_map]
    congr 2
    funext s
    simp [Renaming.subscription, Renaming.bundle]

theorem ruleType?_tables (project : Uuid) (name : String) :
    (e.tables t).ruleType? project name =
      (t.ruleType? project name).map (e.ids.written e.ruleType) := by
  simp only [Tables.ruleType?, tables, List.find?_map]
  rfl

theorem profile?_tables (project : Uuid) (name : String) :
    (e.tables t).profile? project name =
      (t.profile? project name).map (e.ids.written e.profile) := by
  simp only [Tables.profile?, tables, List.find?_map]
  rfl

theorem hasBundle_tables (id : RowId) : (e.tables t).hasBundle (e.ids id) = t.hasBundle id := by
  simp [Tables.hasBundle, tables, List.any_map, Function.comp_def, Renaming.bundle]

theorem linked_tables (subscription : Option RowId) :
    (e.tables t).linked (subscription.map e.ids) = t.linked subscription := by
  cases subscription <;>
    simp [Tables.linked, Tables.hasSubscription, tables, List.any_map, Function.comp_def,
      Renaming.subscription]

/-! ### Rules -/

theorem intact_tables (intact : t.Intact) : (e.tables t).Intact where
  bundleIds := by
    rw [tables, List.map_map]
    simpa [Function.comp_def, Renaming.bundle] using intact.bundleIds.map e.ids.injective
  bundleNames := by
    rw [tables, List.map_map]
    exact intact.bundleNames
  subscriptionIds := by
    rw [tables, List.map_map]
    simpa [Function.comp_def, Renaming.subscription] using
      intact.subscriptionIds.map e.ids.injective
  subscriptionPairs := by
    rw [tables, List.map_map]
    simpa [Function.comp_def, Renaming.subscription, Subscription.pair] using
      intact.subscriptionPairs.map (Function.injective_id.prodMap e.ids.injective)
  ruleTypePlaces := by
    rw [tables, List.map_map]
    exact intact.ruleTypePlaces
  profilePlaces := by
    rw [tables, List.map_map]
    exact intact.profilePlaces
  subscriptionBundles s member := by
    obtain ⟨s, present, rfl⟩ := List.mem_map.mp member
    exact (e.hasBundle_tables s.bundle).trans (intact.subscriptionBundles s present)
  ruleTypeSubscriptions r member := by
    obtain ⟨r, present, rfl⟩ := List.mem_map.mp member
    exact (e.linked_tables r.subscription).trans (intact.ruleTypeSubscriptions r present)
  profileSubscriptions p member := by
    obtain ⟨p, present, rfl⟩ := List.mem_map.mp member
    exact (e.linked_tables p.subscription).trans (intact.profileSubscriptions p present)

/-! ### Changing -/

theorem addBundle_tables (row : BundleRow) :
    e.tables (t.addBundle row) = (e.tables t).addBundle (e.ids.bundle row) := by
  simp [Tables.addBundle, tables]

variable (first second : Schema)

/-- A subscription is added to both tables or to neither. -/
theorem addSubscription_tables (row : Subscription) :
    ((e.tables t).addSubscription second (e.ids.subscription row)).toOption =
      (t.addSubscription first row).toOption.map e.tables := by
  have known := e.hasBundle_tables (t := t) row.bundle
  have taken : ((e.tables t).subscriptions.any fun s =>
      s.project == (e.ids.subscription row).project && s.bundle == (e.ids.subscription row).bundle) =
      t.subscriptions.any fun s => s.project == row.project && s.bundle == row.bundle := by
    simp [tables, List.any_map, Function.comp_def, Renaming.subscription]
  change ((e.tables t).hasBundle (e.ids.subscription row).bundle) = _ at known
  simp only [Tables.addSubscription, known, taken]
  split_ifs
  · rfl
  · rfl
  · simp [Except.toOption, tables]

theorem putRow_map {α β : Type} {write : α → β} (row : ContentRow α) (rows : List (ContentRow α)) :
    Tables.putRow (e.ids.written write row) (rows.map (e.ids.written write)) =
      (e.ids.written write (Tables.putRow row rows).1,
        (Tables.putRow row rows).2.map (e.ids.written write)) := by
  induction rows with
  | nil => rfl
  | cons other rest ih =>
    have same : (e.ids.written write other).isAt (e.ids.written write row).project
        (e.ids.written write row).name = other.isAt row.project row.name := rfl
    by_cases here : other.isAt row.project row.name = true
    · simp only [List.map_cons, Tables.putRow, same, here, if_true]
      rfl
    · simp only [List.map_cons, Tables.putRow, same, here, if_false, Bool.false_eq_true, ih]

/-- A rule type is put into both tables or into neither. -/
theorem putRuleType_tables (row : ContentRow ρ) :
    ((e.tables t).putRuleType second (e.ids.written e.ruleType row)).toOption =
      (t.putRuleType first row).toOption.map fun (kept, t') =>
        (e.ids.written e.ruleType kept, e.tables t') := by
  have linked : (e.tables t).linked (e.ids.written e.ruleType row).subscription =
    t.linked row.subscription := e.linked_tables row.subscription
  simp only [Tables.putRuleType, linked]
  split_ifs
  · rfl
  · simp only [Except.toOption, Option.map_some, tables, e.putRow_map]

/-- A profile is added to both tables or to neither. -/
theorem addProfile_tables (row : ContentRow π) :
    ((e.tables t).addProfile second (e.ids.written e.profile row)).toOption =
      (t.addProfile first row).toOption.map e.tables := by
  have linked : (e.tables t).linked (e.ids.written e.profile row).subscription =
    t.linked row.subscription := e.linked_tables row.subscription
  have taken : ((e.tables t).profiles.any (·.isAt (e.ids.written e.profile row).project
      (e.ids.written e.profile row).name)) = t.profiles.any (·.isAt row.project row.name) := by
    simp only [tables, List.any_map]
    rfl
  simp only [Tables.addProfile, linked, taken]
  cases t.linked row.subscription <;> cases t.profiles.any (·.isAt row.project row.name) <;>
    cases first.missingFirst <;> cases second.missingFirst <;>
      simp [Except.toOption, tables]

end Translation

end RuleCatalog.Store
