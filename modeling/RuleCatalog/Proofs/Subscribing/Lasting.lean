import RuleCatalog.Proofs.Store.Transcript
import RuleCatalog.Proofs.Subscribing.Confined

/-! # Subscriptions last

Once the subscription of a project to a bundle is committed, every later state has it as it is, and
subscribing the project again to a bundle of the same names does nothing but look. That holds for
whatever is done with the store in between, on the store itself and on all transactions that have
begun since, and for whatever the bundle is by then.
-/

namespace RuleCatalog.Subscribing

open Store Store.Memory

/-- There is the subscription `s` of a project to the bundle with given names. -/
structure Subscribed (rows : Rows) (s : Subscription) (project : Uuid) (space name : String) :
    Prop where
  member : s ∈ rows.subscriptions
  project : s.project = project
  bundle : ∃ b ∈ rows.bundles, b.id = s.bundle ∧ b.names = (space, name)

namespace Subscribed

variable {rows rows' : Rows} {s : Subscription} {project : Uuid} {space name : String}

theorem mono (subscribed : Subscribed rows s project space name) (kept : rows.Keeps rows') :
    Subscribed rows' s project space name where
  member := kept.subscriptions.subset subscribed.member
  project := subscribed.project
  bundle := by
    obtain ⟨b, member, same⟩ := subscribed.bundle
    exact ⟨b, kept.bundles.subset member, same⟩

/-- The subscription is the one that is found. -/
theorem found (subscribed : Subscribed rows s project space name) (intact : rows.Intact) :
    rows.subscription? project space name = some s := by
  obtain ⟨b, member, id, names⟩ := subscribed.bundle
  have bundle : rows.bundle? space name = some b := intact.bundle?_eq_some_iff.mpr ⟨member, names⟩
  have pair : s.pair = (project, b.id) := Prod.ext subscribed.project id.symm
  rw [Tables.subscription?, bundle, Option.bind_some]
  exact (find?_eq_some_iff_of_nodup intact.subscriptionPairs (by simp [Subscription.pair])).mpr
    ⟨subscribed.member, pair⟩

end Subscribed

/-! ## Subscribing again -/

/-- A handle that sees what was committed in an earlier state: the store itself, or an open
transaction that has begun since. -/
def Since (earlier m : Memory) : Handle → Prop
  | .direct => True
  | .transaction t => t ∉ earlier.begun ∧ (m.transaction? t).isSome

/-- A computation that succeeds after one request and leaves the whole store as it is. -/
def OnlyLooks {ε : Type} (m : Memory) (h : Handle) (script : Script (Except ε Unit))
    (looked : Request) : Prop :=
  script.run (Memory.answer h).recorded (m, []) = (.ok (), m, [looked])

/-- A project stays subscribed to the bundles with given names. -/
structure StaysSubscribed (earlier m : Memory) (s : Subscription) (project : Project)
    (space name : String) : Prop where
  /-- What is found is the same row, with the same id, bundle and version. -/
  found : m.committed.subscription? project.id space name = some s
  /-- Whatever is offered under these names, subscribing to it is only looking. -/
  subscribe : ∀ h, Since earlier m h → ∀ o : Offering, o.metadata.space = space →
    o.metadata.name = name →
    OnlyLooks m h (subscribe project o) (findSubscription project o.metadata)
  /-- The same goes for every catalog with such a bundle. -/
  catalog : ∀ h, Since earlier m h → ∀ routes id o, Catalog.resolve routes id = .ok o →
    o.metadata.space = space → o.metadata.name = name →
    OnlyLooks m h ((Catalog.routed routes).subscribe project id)
      (findSubscription project o.metadata)

theorem onlyLooks_subscribe {m : Memory} {h : Handle} {rows : Rows} (sound : m.Sound)
    (view : m.view? h = some rows) {project : Project} {o : Offering} {s : Subscription}
    (found : rows.subscription? project.id o.metadata.space o.metadata.name = some s) :
    OnlyLooks m h (subscribe project o) (findSubscription project o.metadata) := by
  have answered := sound.answer_findSubscription view found
  simp only [OnlyLooks, subscribe, findSubscription, Script.run, Handler.recorded, answered,
    List.nil_append]

/-- What a catalog adds to subscribing is not seen if subscribing succeeds. -/
theorem OnlyLooks.catalog {m : Memory} {h : Handle} {routes : Routes} {id : BundleId}
    {o : Offering} {project : Project} {looked : Request}
    (onlyLooks : OnlyLooks m h (Subscribing.subscribe project o) looked)
    (resolved : Catalog.resolve routes id = .ok o) :
    OnlyLooks m h ((Catalog.routed routes).subscribe project id) looked := by
  simp only [OnlyLooks] at onlyLooks
  simp only [OnlyLooks, Catalog.subscribe, resolved, Script.run_andThen, onlyLooks]
  rfl

/-- A committed subscription is there in every later state, and subscribing again only looks. -/
theorem subscribed_lasts (before after : List Action) {s : Subscription} {project : Project}
    {space name : String}
    (subscribed : Subscribed (empty.run before).committed s project.id space name) :
    StaysSubscribed (empty.run before) (empty.run (before ++ after)) s project space name := by
  have sound := sound_run (before ++ after)
  have ran : empty.run (before ++ after) = (empty.run before).run after := List.foldl_append ..
  generalize empty.run (before ++ after) = m at sound ran
  -- every handle in question sees the subscription
  have seen : ∀ h, Since (empty.run before) m h → ∃ rows, m.view? h = some rows ∧
      rows.subscription? project.id space name = some s := by
    intro h since
    obtain ⟨rows, view⟩ : ∃ rows, m.view? h = some rows := by
      cases h with
      | direct => exact ⟨_, rfl⟩
      | transaction t =>
        obtain ⟨tx, isOpen⟩ := Option.isSome_iff_exists.mp since.2
        exact ⟨tx.rows, Option.map_eq_some_iff.mpr ⟨tx, isOpen, rfl⟩⟩
    have kept : (empty.run before).committed.Keeps rows := by
      apply (sound_run before).committed_keeps_view after (ran ▸ view)
      rintro t rfl
      exact since.1
    exact ⟨rows, view, (subscribed.mono kept).found (sound.view_intact view)⟩
  have subscribe : ∀ h, Since (empty.run before) m h → ∀ o : Offering,
      o.metadata.space = space → o.metadata.name = name →
      OnlyLooks m h (subscribe project o) (findSubscription project o.metadata) := by
    rintro h since o rfl rfl
    obtain ⟨rows, view, found⟩ := seen h since
    exact onlyLooks_subscribe sound view found
  constructor
  · obtain ⟨rows, view, found⟩ := seen .direct trivial
    cases view
    exact found
  · exact subscribe
  · intro h since routes id o resolved space name
    exact (subscribe h since o space name).catalog resolved

/-- A project subscribes to a bundle in a transaction, which is committed. -/
private def subscribing : List Action :=
  [.begin 0, .ask (.transaction 0) (.ensureBundle "stacklok" "healthcheck"),
    .ask (.transaction 0) (.addSubscription ⟨1⟩ (.issued (.transaction 0) 0) "1.0.0"), .commit 0]

/-- What the bundle has become by then: another version, whose only rule type is missing. -/
private def changed : Offering where
  metadata := ⟨"stacklok", "healthcheck", "2.0.0", none⟩
  profile name := .error (.noProfile name)
  ruleTypes := [.error (.missingFile "rule_types/r1.yaml")]

theorem subscribed_lasts_changed :
    Subscribed (empty.run subscribing).committed
        ⟨.issued (.transaction 0) 1, ⟨1⟩, .issued (.transaction 0) 0, "1.0.0"⟩ ⟨1⟩
        "stacklok" "healthcheck" ∧
      OnlyLooks (empty.run (subscribing ++ [.begin 1])) (.transaction 1)
        (subscribe ⟨⟨1⟩, ⟨⟨2⟩, "github"⟩⟩ changed)
        (.findSubscription ⟨1⟩ "stacklok" "healthcheck") := by
  have subscribed : Subscribed (empty.run subscribing).committed
      ⟨.issued (.transaction 0) 1, ⟨1⟩, .issued (.transaction 0) 0, "1.0.0"⟩ ⟨1⟩
      "stacklok" "healthcheck" := by
    constructor
    · exact List.mem_singleton_self _
    · rfl
    · exact ⟨_, List.mem_singleton_self _, rfl, rfl⟩
  have stays : StaysSubscribed (empty.run subscribing) (empty.run (subscribing ++ [.begin 1]))
      ⟨.issued (.transaction 0) 1, ⟨1⟩, .issued (.transaction 0) 0, "1.0.0"⟩
      ⟨⟨1⟩, ⟨⟨2⟩, "github"⟩⟩ "stacklok" "healthcheck" :=
    subscribed_lasts subscribing [.begin 1] subscribed
  have since : Since (empty.run subscribing) (empty.run (subscribing ++ [.begin 1]))
      (.transaction 1) := ⟨by decide, rfl⟩
  exact ⟨subscribed, stays.subscribe (.transaction 1) since changed rfl rfl⟩

end RuleCatalog.Subscribing
