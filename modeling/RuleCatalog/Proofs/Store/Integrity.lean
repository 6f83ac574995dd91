import RuleCatalog.Proofs.Store.Tables

/-! # The rules that tables keep

Names, places and pairs are unique, ids are unique among bundles and among subscriptions, and every
reference leads to a row. Every change that is made keeps these rules, provided that the id of an
added row is new.
-/

namespace RuleCatalog.Store.Tables

variable {ρ π : Type} {schema : Schema} {s t t' : Tables ρ π}

/-! ## References -/

theorem hasBundle_iff {id : RowId} : t.hasBundle id = true ↔ id ∈ t.bundles.map (·.id) := by
  simp [hasBundle]

theorem linked_iff {subscription : Option RowId} :
    t.linked subscription = true ↔ ∀ id ∈ subscription, id ∈ t.subscriptions.map (·.id) := by
  cases subscription <;> simp [linked, hasSubscription]

theorem Keeps.hasBundle (kept : Keeps s t) {id : RowId} (known : s.hasBundle id = true) :
    t.hasBundle id = true :=
  hasBundle_iff.mpr ((kept.bundles.map _).subset (hasBundle_iff.mp known))

theorem Keeps.linked (kept : Keeps s t) {subscription : Option RowId}
    (linked : s.linked subscription = true) : t.linked subscription = true :=
  linked_iff.mpr fun id member =>
    (kept.subscriptions.map _).subset (linked_iff.mp linked id member)

/-- A place that is free has been free before. -/
theorem Keeps.ruleType?_eq_none (kept : Keeps s t) {project : Uuid} {name : String}
    (absent : t.ruleType? project name = none) : s.ruleType? project name = none := by
  apply List.find?_eq_none.mpr
  intro r member here
  obtain ⟨other, present, same⟩ := List.mem_map.mp
    (kept.ruleTypes.subset (List.mem_map_of_mem (f := ContentRow.mark) member))
  have place : other.place = r.place := congrArg Prod.snd same
  exact List.find?_eq_none.mp absent other present
    (ContentRow.isAt_iff.mpr (place.trans (ContentRow.isAt_iff.mp here)))

theorem bundle?_eq_none_iff {space name : String} :
    t.bundle? space name = none ↔ (space, name) ∉ t.bundles.map BundleRow.names := by
  simp [bundle?, BundleRow.names]

/-! ## The rules -/

/-- Tables that keep all rules. -/
structure Intact (t : Tables ρ π) : Prop where
  bundleIds : (t.bundles.map (·.id)).Nodup
  bundleNames : (t.bundles.map BundleRow.names).Nodup
  subscriptionIds : (t.subscriptions.map (·.id)).Nodup
  subscriptionPairs : (t.subscriptions.map Subscription.pair).Nodup
  ruleTypePlaces : (t.ruleTypes.map ContentRow.place).Nodup
  profilePlaces : (t.profiles.map ContentRow.place).Nodup
  subscriptionBundles : ∀ s ∈ t.subscriptions, t.hasBundle s.bundle = true
  ruleTypeSubscriptions : ∀ r ∈ t.ruleTypes, t.linked r.subscription = true
  profileSubscriptions : ∀ p ∈ t.profiles, t.linked p.subscription = true

theorem intact_empty : (empty : Tables ρ π).Intact := by
  constructor <;> simp [empty]

private theorem nodup_map_append {α κ : Type} {rows : List α} {key : α → κ} {row : α}
    (distinct : (rows.map key).Nodup) (new : key row ∉ rows.map key) :
    ((rows ++ [row]).map key).Nodup := by
  rw [List.map_append, List.map_singleton]
  exact List.nodup_append_comm.mp (List.nodup_cons.mpr ⟨new, distinct⟩)

namespace Intact

/-! ## What changes keep -/

theorem addBundle (intact : t.Intact) {row : BundleRow} (new : row.id ∉ t.bundles.map (·.id))
    (absent : t.bundle? row.space row.name = none) : (t.addBundle row).Intact :=
  { intact with
    bundleIds := nodup_map_append intact.bundleIds new
    bundleNames := nodup_map_append intact.bundleNames (bundle?_eq_none_iff.mp absent)
    subscriptionBundles := fun s member =>
      (Keeps.addBundle t row).hasBundle (intact.subscriptionBundles s member) }

theorem addSubscription (intact : t.Intact) {row : Subscription}
    (new : row.id ∉ t.subscriptions.map (·.id)) (added : t.addSubscription schema row = .ok t') :
    t'.Intact := by
  have kept := Keeps.addSubscription added
  obtain ⟨known, free, rfl⟩ := addSubscription_eq_ok_iff.mp added
  refine { intact with
    subscriptionIds := nodup_map_append intact.subscriptionIds new
    subscriptionPairs := nodup_map_append intact.subscriptionPairs free
    subscriptionBundles := fun s member => ?_
    ruleTypeSubscriptions := fun r member => kept.linked (intact.ruleTypeSubscriptions r member)
    profileSubscriptions := fun p member => kept.linked (intact.profileSubscriptions p member) }
  rcases List.mem_append.mp member with old | added
  · exact intact.subscriptionBundles s old
  · rw [List.mem_singleton.mp added]
    exact known

theorem putRuleType (intact : t.Intact) {row kept : ContentRow ρ}
    (put : t.putRuleType schema row = .ok (kept, t')) : t'.Intact := by
  obtain ⟨linked, rfl, rfl⟩ := putRuleType_eq_ok_iff.mp put
  refine { intact with
    ruleTypePlaces := putRow_places_nodup intact.ruleTypePlaces
    ruleTypeSubscriptions := fun r member => ?_ }
  rcases (mem_putRow intact.ruleTypePlaces).mp member with ⟨old, -⟩ | rfl
  · exact intact.ruleTypeSubscriptions r old
  · rw [putRow_fst]
    exact linked

theorem addProfile (intact : t.Intact) {row : ContentRow π}
    (added : t.addProfile schema row = .ok t') : t'.Intact := by
  obtain ⟨linked, free, rfl⟩ := addProfile_eq_ok_iff.mp added
  refine { intact with
    profilePlaces := nodup_map_append intact.profilePlaces free
    profileSubscriptions := fun p member => ?_ }
  rcases List.mem_append.mp member with old | added
  · exact intact.profileSubscriptions p old
  · rw [List.mem_singleton.mp added]
    exact linked

/-! ## Finding rows -/

theorem bundle?_eq_some_iff (intact : t.Intact) {space name : String} {b : BundleRow} :
    t.bundle? space name = some b ↔ b ∈ t.bundles ∧ b.names = (space, name) :=
  find?_eq_some_iff_of_nodup intact.bundleNames (by simp [BundleRow.names])

theorem subscription?_eq_some_iff (intact : t.Intact) {project : Uuid} {space name : String}
    {s : Subscription} :
    t.subscription? project space name = some s ↔ s ∈ t.subscriptions ∧ s.project = project ∧
      ∃ b ∈ t.bundles, b.id = s.bundle ∧ b.names = (space, name) := by
  constructor
  · exact subscription?_eq_some
  · rintro ⟨member, rfl, b, known, same, names⟩
    apply Option.bind_eq_some_iff.mpr
    refine ⟨b, intact.bundle?_eq_some_iff.mpr ⟨known, names⟩, ?_⟩
    rw [same]
    exact (find?_eq_some_iff_of_nodup intact.subscriptionPairs (by simp [Subscription.pair])).mpr
      ⟨member, rfl⟩

theorem ruleType?_eq_some_iff (intact : t.Intact) {project : Uuid} {name : String}
    {r : ContentRow ρ} :
    t.ruleType? project name = some r ↔ r ∈ t.ruleTypes ∧ r.place = (project, name) :=
  find?_eq_some_iff_of_nodup intact.ruleTypePlaces fun _ => ContentRow.isAt_iff

end Intact

/-! ## New ids -/

/-- Of the ids that a handle gives out, only the first ones are in use. -/
structure IssuedBelow (t : Tables ρ π) (h : Handle) (bound : Nat) : Prop where
  bundles : ∀ b ∈ t.bundles, ∀ n, b.id = .issued h n → n < bound
  subscriptions : ∀ s ∈ t.subscriptions, ∀ n, s.id = .issued h n → n < bound

namespace IssuedBelow

variable {h : Handle} {bound : Nat}

theorem bundle_new (below : t.IssuedBelow h bound) :
    .issued h bound ∉ t.bundles.map (·.id) := by
  intro member
  obtain ⟨b, present, same⟩ := List.mem_map.mp member
  exact Nat.lt_irrefl _ (below.bundles b present _ same)

theorem subscription_new (below : t.IssuedBelow h bound) :
    .issued h bound ∉ t.subscriptions.map (·.id) := by
  intro member
  obtain ⟨s, present, same⟩ := List.mem_map.mp member
  exact Nat.lt_irrefl _ (below.subscriptions s present _ same)

theorem of_keeps (below : t.IssuedBelow h bound) (kept : s.Keeps t) : s.IssuedBelow h bound :=
  ⟨fun b member => below.bundles b (kept.bundles.subset member),
    fun s member => below.subscriptions s (kept.subscriptions.subset member)⟩

/-- Whatever is added, its ids are among the first ones as well. -/
theorem extend {bound' : Nat} (below : t.IssuedBelow h bound) (New : RowId → Prop)
    (le : bound ≤ bound') (bundles : ∀ b ∈ t'.bundles, b ∈ t.bundles ∨ New b.id)
    (subscriptions : ∀ s ∈ t'.subscriptions, s ∈ t.subscriptions ∨ New s.id)
    (new : ∀ id, New id → ∀ n, id = .issued h n → n < bound') : t'.IssuedBelow h bound' := by
  constructor
  · intro b member n same
    rcases bundles b member with old | isNew
    · exact Nat.lt_of_lt_of_le (below.bundles b old n same) le
    · exact new b.id isNew n same
  · intro s member n same
    rcases subscriptions s member with old | isNew
    · exact Nat.lt_of_lt_of_le (below.subscriptions s old n same) le
    · exact new s.id isNew n same

end IssuedBelow

end RuleCatalog.Store.Tables
