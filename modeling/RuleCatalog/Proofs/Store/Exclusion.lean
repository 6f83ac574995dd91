import RuleCatalog.Proofs.Store.Sound

/-! # Subscriptions are held once

A project can be subscribed to a bundle through many handles, which see different tables and may
know the bundle under different ids. Still there is one handle at a time that has the subscription:
it is committed, or one open transaction has added it and holds the reservation.
-/

namespace RuleCatalog.Store.Memory

open Transaction

variable {m : Memory} {h h' : Handle} {t : TxId} {tx : Transaction} {rows rows' : Rows}

/-- The tables as a handle sees them. -/
def view? (m : Memory) : Handle → Option Rows
  | .direct => some m.committed
  | .transaction t => (m.transaction? t).map (·.rows)

/-- Where a subscription comes from that a handle sees: it is committed, with the same key, or the
handle is a transaction that has added it. -/
inductive Origin (m : Memory) : Handle → Rows → Subscription → Prop
  | committed {h rows s} (member : s ∈ m.committed.subscriptions)
      (key : keyOf rows s = keyOf m.committed s) : Origin m h rows s
  | staged {t tx s} (isOpen : m.transaction? t = some tx) (member : s ∈ subscriptionsOf tx.log) :
      Origin m (.transaction t) tx.rows s

theorem Sound.origin (sound : Sound m) (view : m.view? h = some rows) {s : Subscription}
    (visible : s ∈ rows.subscriptions) : Origin m h rows s := by
  cases h with
  | direct =>
    cases view
    exact .committed visible rfl
  | transaction t =>
    obtain ⟨tx, isOpen, rfl⟩ := Option.map_eq_some_iff.mp view
    obtain ⟨start, intact, kept, history⟩ := sound.histories t tx isOpen
    rcases List.mem_append.mp (history.subscriptions ▸ visible) with old | added
    · obtain ⟨key, known⟩ := keyOf_isSome (intact.subscriptionBundles s old)
      refine .committed (kept.subscriptions.subset old) ?_
      rw [keyOf_mono history.keeps.bundles known, keyOf_mono kept.bundles known]
    · exact .staged isOpen added

theorem Sound.eq_of_key_eq (sound : Sound m) (view : m.view? h = some rows)
    (view' : m.view? h' = some rows') {s s' : Subscription} (visible : s ∈ rows.subscriptions)
    (visible' : s' ∈ rows'.subscriptions) (same : keyOf rows s = keyOf rows' s') : s = s' := by
  have claimed : ∀ {tx : Transaction} {row}, row ∈ subscriptionsOf tx.log →
      keyOf tx.rows row ∈ tx.staged := List.mem_map_of_mem
  cases sound.origin view visible with
  | committed member key =>
    have inCommitted : keyOf rows s ∈ keys m.committed := key ▸ List.mem_map_of_mem member
    cases sound.origin view' visible' with
    | committed member' key' =>
      exact List.inj_on_of_nodup_map (keys_nodup sound.intact) member member'
        (key.symm.trans (same.trans key'))
    | staged isOpen' member' =>
      exact (sound.uncommitted_of_staged isOpen' _ (claimed member') (same ▸ inCommitted)).elim
  | @staged t tx _ isOpen member =>
    cases sound.origin view' visible' with
    | committed member' key' =>
      have inCommitted : keyOf rows' s' ∈ keys m.committed := key' ▸ List.mem_map_of_mem member'
      exact (sound.uncommitted_of_staged isOpen _ (claimed member) (same ▸ inCommitted)).elim
    | @staged t' tx' _ isOpen' member' =>
      obtain rfl : t = t' :=
        sound.staged_apart isOpen isOpen' (claimed member) (same ▸ claimed member')
      obtain rfl : tx = tx' := Option.some.inj (isOpen.symm.trans isOpen')
      exact List.inj_on_of_nodup_map (keys_nodup (sound.rows_intact isOpen)) visible visible' same

/-- At most one handle at a time has subscribed a project to a bundle. -/
structure Exclusive (m : Memory) : Prop where
  /-- What is reserved is what open transactions have added, for the one that has added it. -/
  reserved : ∀ key t, m.reservations.lookup key = some t ↔ ∃ tx, m.transaction? t = some tx ∧
    ∃ row ∈ subscriptionsOf tx.log, keyOf tx.rows row = some key
  /-- No entry for a key is hidden by another one. -/
  entries : ∀ key t, (key, t) ∈ m.reservations → m.reservations.lookup key = some t
  /-- Every subscription has a key, whether it is committed or added by an open transaction. -/
  keyed : none ∉ m.claims
  /-- No key is there twice among all these subscriptions. -/
  once : m.claims.Nodup
  /-- Whatever handles are used, a key leads to the same subscription if it leads to one. -/
  visible : ∀ h h' rows rows', m.view? h = some rows → m.view? h' = some rows' →
    ∀ s ∈ rows.subscriptions, ∀ s' ∈ rows'.subscriptions, keyOf rows s = keyOf rows' s' → s = s'

namespace Sound

theorem lookup_eq_some_iff (sound : Sound m) {key : SubscriptionKey} :
    m.reservations.lookup key = some t ↔ (key, t) ∈ m.reservations := by
  constructor
  · exact Reservations.mem_of_lookup
  · intro member
    obtain ⟨u, found⟩ := Reservations.exists_lookup member
    rw [found, sound.reserved_unique (Reservations.mem_of_lookup found) member]

theorem none_not_mem_claims (sound : Sound m) : none ∉ m.claims := by
  intro claimed
  rcases List.mem_append.mp claimed with committed | staged
  · exact none_not_mem_keys sound.intact committed
  · obtain ⟨⟨t, tx⟩, isOpen, unknown⟩ := List.mem_flatMap.mp staged
    have isOpen := (mem_transactions_iff sound.numbers).mp isOpen
    obtain ⟨_, -, -, history⟩ := sound.histories t tx isOpen
    exact none_not_mem_keys (sound.rows_intact isOpen) (history.staged_subset unknown)

theorem exclusive (sound : Sound m) : Exclusive m where
  reserved key t := by
    rw [sound.lookup_eq_some_iff, sound.reserved]
    simp only [staged, List.mem_map]
  entries _ _ := sound.lookup_eq_some_iff.mpr
  keyed := sound.none_not_mem_claims
  once := sound.claims
  visible _ _ _ _ view view' _ visible _ visible' := sound.eq_of_key_eq view view' visible visible'

/-- A transaction that is not open has reserved nothing. -/
theorem not_reserved_of_closed (sound : Sound m) (closed : m.transaction? t = none)
    {key : SubscriptionKey} : (key, t) ∉ m.reservations := by
  intro reserved
  obtain ⟨tx, isOpen, -⟩ := (sound.reserved key t).mp reserved
  exact Option.some_ne_none tx (isOpen.symm.trans closed)

end Sound

/-- A commit ends its transaction, whether it succeeds or not. -/
theorem transaction?_commit_self : (m.commit t).2.transaction? t = none := by
  cases isOpen : m.transaction? t with
  | none => simp only [commit, isOpen]
  | some tx =>
    have gone : (m.without t).transaction? t = none := transaction?_without_self
    cases ended : replay tx.log m.committed <;> (simp only [commit, isOpen, ended]; exact gone)

/-- In every run, a project is subscribed to a bundle through one handle at a time, and nothing
stays reserved for a transaction that ends. -/
theorem exclusive_run (actions : List Action) :
    Exclusive (empty.run actions) ∧
      ∀ t key, (key, t) ∉ ((empty.run actions).commit t).2.reservations ∧
        (key, t) ∉ ((empty.run actions).rollback t).reservations := by
  have sound := sound_run actions
  constructor
  · exact sound.exclusive
  · intro t key
    constructor
    · exact (sound.commit t).not_reserved_of_closed transaction?_commit_self
    · exact (sound.without t).not_reserved_of_closed transaction?_without_self

end RuleCatalog.Store.Memory
