import RuleCatalog.Proofs.Store.Integrity
import RuleCatalog.Store.Memory

/-! # Keys of subscriptions

A key names the bundle of a subscription rather than pointing to its row, so it means the same in
all copies of the tables. In tables that keep their rules, subscriptions differ in their keys as
soon as they differ in project and bundle, and a row that is added to the tables changes no key.
-/

namespace RuleCatalog.Store.Memory

variable {rows rows' : Rows} {s : Subscription} {key : SubscriptionKey}

/-- The keys of all subscriptions. -/
def keys (rows : Rows) : List (Option SubscriptionKey) := rows.subscriptions.map (keyOf rows)

theorem keyOf_congr (same : rows.bundles = rows'.bundles) : keyOf rows = keyOf rows' := by
  funext s
  simp only [keyOf, same]

theorem keyOf_mono (kept : rows.bundles <+: rows'.bundles) (known : keyOf rows s = some key) :
    keyOf rows' s = some key := by
  obtain ⟨b, found, rfl⟩ := Option.map_eq_some_iff.mp known
  exact Option.map_eq_some_iff.mpr ⟨b, kept.find?_eq_some found, rfl⟩

theorem keyOf_isSome (known : rows.hasBundle s.bundle = true) : ∃ key, keyOf rows s = some key := by
  obtain ⟨b, member, same⟩ := List.mem_map.mp (Tables.hasBundle_iff.mp known)
  have isFound : (rows.bundles.find? (·.id == s.bundle)).isSome :=
    List.find?_isSome.mpr ⟨b, member, by simpa using same⟩
  obtain ⟨first, found⟩ := Option.isSome_iff_exists.mp isFound
  exact ⟨_, Option.map_eq_some_iff.mpr ⟨first, found, rfl⟩⟩

theorem keyOf_eq_some_iff (intact : rows.Intact) :
    keyOf rows s = some key ↔
      ∃ b ∈ rows.bundles, b.id = s.bundle ∧ SubscriptionKey.mk s.project b.space b.name = key := by
  simp only [keyOf, Option.map_eq_some_iff,
    find?_eq_some_iff_of_nodup intact.bundleIds (fun _ => beq_iff_eq), and_assoc]

/-- A bundle has the names that the key of a subscription to it says. -/
theorem keyOf_of_bundle (intact : rows.Intact) {b : BundleRow} (member : b ∈ rows.bundles)
    (same : b.id = s.bundle) : keyOf rows s = some ⟨s.project, b.space, b.name⟩ :=
  (keyOf_eq_some_iff intact).mpr ⟨b, member, same, rfl⟩

/-- Subscriptions of one key are of one project to one bundle. -/
theorem pair_eq_of_keyOf_eq (intact : rows.Intact) {other : Subscription}
    (known : keyOf rows s = some key) (same : keyOf rows other = some key) :
    s.pair = other.pair := by
  obtain ⟨b, member, id, rfl⟩ := (keyOf_eq_some_iff intact).mp known
  obtain ⟨c, otherMember, otherId, equal⟩ := (keyOf_eq_some_iff intact).mp same
  obtain ⟨project, names⟩ : s.project = other.project ∧ b.names = c.names := by
    simpa [BundleRow.names, eq_comm] using equal
  have oneBundle : b = c := List.inj_on_of_nodup_map intact.bundleNames member otherMember names
  simp only [Subscription.pair, project, ← id, ← otherId, oneBundle]

theorem mem_keys_iff (intact : rows.Intact) (known : keyOf rows s = some key) :
    some key ∈ keys rows ↔ s.pair ∈ rows.subscriptions.map Subscription.pair := by
  constructor
  · intro member
    obtain ⟨other, present, same⟩ := List.mem_map.mp member
    exact List.mem_map.mpr ⟨other, present, pair_eq_of_keyOf_eq intact same known⟩
  · intro member
    obtain ⟨other, present, same⟩ := List.mem_map.mp member
    obtain ⟨project, bundle⟩ : other.project = s.project ∧ other.bundle = s.bundle := by
      simpa [Subscription.pair] using same
    exact List.mem_map.mpr ⟨other, present, by simpa only [keyOf, project, bundle] using known⟩

theorem keys_nodup (intact : rows.Intact) : (keys rows).Nodup := by
  apply List.Nodup.map_on _ intact.subscriptionPairs.of_map
  intro s member other otherMember same
  obtain ⟨key, known⟩ := keyOf_isSome (intact.subscriptionBundles s member)
  exact List.inj_on_of_nodup_map intact.subscriptionPairs member otherMember
    (pair_eq_of_keyOf_eq intact known (same ▸ known))

theorem none_not_mem_keys (intact : rows.Intact) : none ∉ keys rows := by
  intro member
  obtain ⟨s, present, unknown⟩ := List.mem_map.mp member
  obtain ⟨key, known⟩ := keyOf_isSome (intact.subscriptionBundles s present)
  exact Option.some_ne_none key (known.symm.trans unknown)

theorem hasKey_iff (intact : rows.Intact) : hasKey rows key = true ↔ some key ∈ keys rows := by
  rw [hasKey, Option.isSome_iff_exists]
  constructor
  · rintro ⟨s, found⟩
    obtain ⟨present, project, b, bundle, id, names⟩ := Tables.subscription?_eq_some found
    refine List.mem_map.mpr ⟨s, present, ?_⟩
    obtain ⟨space, name⟩ : b.space = key.space ∧ b.name = key.name := by
      simpa [BundleRow.names] using names
    rw [keyOf_of_bundle intact bundle id, project, space, name]
  · intro member
    obtain ⟨s, present, known⟩ := List.mem_map.mp member
    obtain ⟨b, bundle, id, rfl⟩ := (keyOf_eq_some_iff intact).mp known
    have found : rows.bundle? b.space b.name = some b :=
      intact.bundle?_eq_some_iff.mpr ⟨bundle, rfl⟩
    rw [Tables.subscription?, found, Option.bind_some, ← Option.isSome_iff_exists]
    exact List.find?_isSome.mpr ⟨s, present, by simp [id]⟩

/-- Another bundle changes no key of a subscription whose bundle is known. -/
theorem map_keyOf_mono {subscriptions : List Subscription} (kept : rows.bundles <+: rows'.bundles)
    (known : ∀ s ∈ subscriptions, rows.hasBundle s.bundle = true) :
    subscriptions.map (keyOf rows') = subscriptions.map (keyOf rows) := by
  apply List.map_congr_left
  intro s member
  obtain ⟨key, found⟩ := keyOf_isSome (known s member)
  rw [found, keyOf_mono kept found]

theorem keys_addBundle (intact : rows.Intact) (row : BundleRow) :
    keys (rows.addBundle row) = keys rows :=
  map_keyOf_mono (Tables.Keeps.addBundle rows row).bundles intact.subscriptionBundles

theorem keys_addSubscription (added : rows.addSubscription schema s = .ok rows') :
    keys rows' = keys rows ++ [keyOf rows s] := by
  obtain ⟨-, -, rfl⟩ := Tables.addSubscription_eq_ok_iff.mp added
  rw [keys, List.map_append, List.map_singleton]
  rfl

end RuleCatalog.Store.Memory
