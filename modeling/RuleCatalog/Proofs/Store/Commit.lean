import RuleCatalog.Proofs.Store.Sound

/-! # What a commit does

A commit is refused if another handle has committed a profile in a place of one of the transaction's
own, and for no other reason; nothing has changed then. Otherwise the committed tables are what they
were with the rows of the log: nothing is lost, nothing else is added, and every subscription is to
the bundle that the transaction has subscribed, under whatever id that bundle is known by now.
-/

namespace RuleCatalog.Store.Memory

open Transaction

variable {m m' : Memory} {t : TxId} {tx : Transaction}

/-! ## Refusal -/

/-- Only a profile whose place has been taken is in the way of a commit. Then the committed tables
stay as they are, and the transaction ends and gives up what it has reserved. -/
theorem commit_refused_iff (actions : List Action)
    (isOpen : (empty.run actions).transaction? t = some tx) :
    let m := empty.run actions
    ((∃ e, (m.commit t).1 = .error e) ↔ Displaced m.committed tx.log) ∧
      ∀ e, (m.commit t).1 = .error e →
        e = .unique "profiles_project_id_name_key" ∧
        (m.commit t).2.committed = m.committed ∧
        (∀ key u, (key, u) ∈ (m.commit t).2.reservations ↔ (key, u) ∈ m.reservations ∧ u ≠ t) ∧
        ∀ u, (m.commit t).2.transaction? u = if u = t then none else m.transaction? u := by
  intro m
  rcases (sound_run actions).commit_cases isOpen with
    ⟨displaced, ended⟩ | ⟨free, rows, redirection, -, ended⟩
  · change m.commit t = _ at ended
    rw [ended]
    refine ⟨iff_of_true ⟨_, rfl⟩ displaced, ?_⟩
    rintro e ⟨⟩
    refine ⟨rfl, rfl, fun key u => Reservations.mem_release_iff, fun u => ?_⟩
    by_cases same : u = t
    · rw [if_pos same, same]
      exact transaction?_without_self
    · rw [if_neg same]
      exact transaction?_without_ne same
  · change m.commit t = _ at ended
    rw [ended]
    exact ⟨iff_of_false (fun ⟨_, refused⟩ => nomatch refused) free, fun _ refused => nomatch refused⟩

/-- A transaction and then the store itself are asked to add the same profile. -/
private def profileTwice : List Action :=
  let profile : NewContent Profile := ⟨⟨1⟩, ⟨2⟩, none, ⟨"p", none, [], none, none, []⟩⟩
  [.begin 0, .ask (.transaction 0) (.addProfile profile), .ask .direct (.addProfile profile)]

theorem commit_refused_profileTwice :
    ∃ tx, (empty.run profileTwice).transaction? 0 = some tx ∧
      Displaced (empty.run profileTwice).committed tx.log ∧
      ((empty.run profileTwice).commit 0).1 = .error (.unique "profiles_project_id_name_key") := by
  refine ⟨_, rfl, ?_, ?_⟩
  · exact (commit_refused_iff (t := 0) profileTwice rfl).1.mp ⟨_, rfl⟩
  · exact congrArg Except.error ((commit_refused_iff (t := 0) profileTwice rfl).2 _ rfl).1

/-! ## Success -/

/-- A subscription as it is committed: the same one, to the bundle that has the names by now that the
transaction has subscribed. -/
structure Arrived (seen new : Rows) (row kept : Subscription) : Prop where
  id : kept.id = row.id
  project : kept.project = row.project
  version : kept.version = row.version
  bundle : ∃ key, keyOf seen row = some key ∧
    ∃ b, new.bundle? key.space key.name = some b ∧ kept.bundle = b.id

/-- The committed tables after a commit: what was there, and what the log says. -/
structure Applied (old : Rows) (tx : Transaction) (new : Rows) : Prop where
  /-- No row is lost or moved, and none changes but the content of rule types. -/
  keeps : old.Keeps new
  /-- Of the bundles that the log adds, those are added whose names were unknown. -/
  bundles : new.bundles = old.bundles ++
    (bundlesOf tx.log).filter fun b => (old.bundle? b.space b.name).isNone
  /-- The subscriptions that the log adds are added, in order. -/
  subscriptions : ∃ added, new.subscriptions = old.subscriptions ++ added ∧
    List.Forall₂ (Arrived tx.rows new) (subscriptionsOf tx.log) added
  /-- In every place is what the log puts there last, or what was there before. -/
  ruleTypes : ∀ project name, new.ruleType? project name =
    ((lastWrite tx.log (project, name)).map (landed old)).or (old.ruleType? project name)
  /-- The profiles that the log adds are added, in order. -/
  profiles : new.profiles = old.profiles ++ profilesOf tx.log
  /-- No place and no name is there twice, and every reference leads to a row. -/
  intact : new.Intact

namespace Merged

variable {s base rows : Rows} {redirection : Redirection}

theorem arrived (merged : Merged base tx rows redirection) (intact : tx.rows.Intact)
    {row : Subscription} (known : tx.rows.hasBundle row.bundle = true) :
    Arrived tx.rows rows row (redirection.lead row) := by
  refine ⟨rfl, rfl, rfl, ?_⟩
  obtain ⟨b, member, same⟩ := List.mem_map.mp (Tables.hasBundle_iff.mp known)
  obtain ⟨c, present, target, names⟩ := merged.sameBundles b member
  refine ⟨_, keyOf_of_bundle intact member same, c, ?_, ?_⟩
  · exact merged.intact.bundle?_eq_some_iff.mpr ⟨present, names⟩
  · rw [target, same]
    rfl

theorem ruleType?_eq (merged : Merged base tx rows redirection) (intactBase : base.Intact)
    (project : Uuid) (name : String) : rows.ruleType? project name =
      ((lastWrite tx.log (project, name)).map (landed base)).or (base.ruleType? project name) := by
  apply Option.ext
  intro r
  rw [merged.intact.ruleType?_eq_some_iff, merged.ruleTypes]
  cases last : lastWrite tx.log (project, name) with
  | none =>
    rw [Option.map_none, Option.none_or, intactBase.ruleType?_eq_some_iff]
    constructor
    · rintro ⟨⟨old, -⟩ | ⟨w, wLast, -⟩, place⟩
      · exact ⟨old, place⟩
      · exact (Option.some_ne_none w (wLast.symm.trans (place ▸ last))).elim
    · rintro ⟨old, place⟩
      exact ⟨.inl ⟨old, place ▸ last⟩, place⟩
  | some w =>
    have wPlace : w.place = (project, name) := place_of_lastWrite last
    rw [Option.map_some, Option.some_or, Option.some_inj]
    constructor
    · rintro ⟨⟨-, unwritten⟩ | ⟨v, vLast, rfl⟩, place⟩
      · exact (Option.some_ne_none w (last.symm.trans (place ▸ unwritten))).elim
      · rw [Option.some.inj (last.symm.trans (place ▸ vLast))]
    · rintro rfl
      exact ⟨.inr ⟨w, wPlace ▸ last, rfl⟩, wPlace⟩

theorem applied (merged : Merged base tx rows redirection) (intactBase : base.Intact)
    (intact : tx.rows.Intact) (history : History t s tx) : Applied base tx rows where
  keeps := merged.keeps
  bundles := merged.bundles
  subscriptions := by
    refine ⟨_, merged.subscriptions, ?_⟩
    rw [List.forall₂_map_right_iff, List.forall₂_same]
    exact fun row member => merged.arrived intact (history.hasBundle_of_staged intact row member)
  ruleTypes := merged.ruleType?_eq intactBase
  profiles := merged.profiles
  intact := merged.intact

end Merged

/-- A commit that succeeds adds what the transaction has done to the tables as they are by then. -/
theorem commit_applies (actions : List Action)
    (isOpen : (empty.run actions).transaction? t = some tx)
    (success : (empty.run actions).commit t = (.ok (), m')) :
    Applied (empty.run actions).committed tx m'.committed := by
  have sound := sound_run actions
  rcases sound.commit_cases isOpen with ⟨-, ended⟩ | ⟨-, rows, redirection, merged, ended⟩
  · cases ended.symm.trans success
  · cases ended.symm.trans success
    obtain ⟨s, -, -, history⟩ := sound.histories t tx isOpen
    exact merged.applied sound.intact (sound.rows_intact isOpen) history

/-- A transaction subscribes a project to a bundle that the store itself adds in the meantime. -/
private def bundleTwice : List Action :=
  [.begin 0, .ask (.transaction 0) (.ensureBundle "s" "b"), .ask .direct (.ensureBundle "s" "b"),
    .ask (.transaction 0) (.addSubscription ⟨1⟩ (.issued (.transaction 0) 0) "v1")]

theorem commit_applies_bundleTwice :
    ∃ tx m', (empty.run bundleTwice).transaction? 0 = some tx ∧
      (empty.run bundleTwice).commit 0 = (.ok (), m') ∧
      Applied (empty.run bundleTwice).committed tx m'.committed ∧
      m'.committed.bundles = [⟨.issued .direct 0, "s", "b"⟩] ∧
      m'.committed.subscriptions =
        [⟨.issued (.transaction 0) 1, ⟨1⟩, .issued .direct 0, "v1"⟩] := by
  refine ⟨_, _, rfl, rfl, ?_, rfl, rfl⟩
  exact commit_applies (t := 0) bundleTwice rfl rfl

end RuleCatalog.Store.Memory
