import RuleCatalog.Proofs.Store.History

/-! # Replaying a log on other tables

A log is replayed on tables that have moved on since the transaction began. `Merged` describes what
comes out: all rows that were there, and the rows of the log, with subscriptions led to the bundles
of the same names. `replayed_outcome` shows that nothing but a profile whose place has been taken
can be in the way, as long as no other handle has subscribed what the transaction has.
-/

namespace RuleCatalog.Store.Memory

open Transaction

/-! ## One write -/

namespace Redirection

variable {r : Redirection} {id : RowId}

/-- A subscription led to where its bundle is. -/
def lead (r : Redirection) (s : Subscription) : Subscription := { s with bundle := r.target s.bundle }

theorem target_of_not_mem (unknown : id ∉ r.map Prod.fst) : r.target id = id := by
  have absent : r.lookup id = none := List.lookup_eq_none_iff.mpr fun e member =>
    bne_iff_ne.mpr fun same => unknown (List.mem_map.mpr ⟨e, member, same.symm⟩)
  rw [target, absent, Option.getD_none]

theorem target_cons_self {other : RowId} : target ((id, other) :: r) id = other := by
  simp [target]

theorem target_cons_ne {first other : RowId} (apart : id ≠ first) :
    target ((first, other) :: r) id = r.target id := by
  simp [target, List.lookup_cons, beq_false_of_ne apart]

theorem lead_cons_ne {first other : RowId} {s : Subscription} (apart : s.bundle ≠ first) :
    lead ((first, other) :: r) s = r.lead s := by
  rw [lead, target_cons_ne apart, lead]

end Redirection

section Write

variable {rows rows' : Rows} {redirection : Redirection}

theorem replay_bundle_of_absent {row : BundleRow}
    (absent : rows.bundle? row.space row.name = none) :
    (Write.bundle row).replay (rows, redirection) = .ok (rows.addBundle row, redirection) := by
  simp only [Write.replay, absent]
  rfl

theorem replay_bundle_of_present {row there : BundleRow}
    (present : rows.bundle? row.space row.name = some there) (apart : there.id ≠ row.id) :
    (Write.bundle row).replay (rows, redirection) =
      .ok (rows, (row.id, there.id) :: redirection) := by
  simp only [Write.replay, present, if_neg apart]
  rfl

theorem replay_subscription {row : Subscription}
    (added : rows.addSubscription schema (redirection.lead row) = .ok rows') :
    (Write.subscription row).replay (rows, redirection) = .ok (rows', redirection) := by
  change (do return (← rows.addSubscription schema (redirection.lead row), redirection)) = _
  rw [added]
  rfl

theorem replay_ruleType {row kept : ContentRow RuleType}
    (put : rows.putRuleType schema row = .ok (kept, rows')) :
    (Write.ruleType row).replay (rows, redirection) = .ok (rows', redirection) := by
  simp only [Write.replay, put]
  rfl

theorem replay_profile {row : ContentRow Profile} (added : rows.addProfile schema row = .ok rows') :
    (Write.profile row).replay (rows, redirection) = .ok (rows', redirection) := by
  simp only [Write.replay, added]
  rfl

theorem replay_profile_of_error {row : ContentRow Profile} {e : Error}
    (refused : rows.addProfile schema row = .error e) :
    (Write.profile row).replay (rows, redirection) = .error e := by
  simp only [Write.replay, refused]
  rfl

end Write

/-! ## The whole log -/

/-- The rows after replaying a log, and where references to its bundles lead. -/
def replayed (log : List Write) (base : Rows) : Except Error (Rows × Redirection) :=
  log.foldlM (fun state w => w.replay state) (base, [])

theorem replay_eq (log : List Write) (base : Rows) :
    replay log base = (replayed log base).map Prod.fst := by
  change (replayed log base >>= fun state => pure state.1) = _
  cases replayed log base <;> rfl

theorem replayed_concat {log : List Write} {w : Write} {base : Rows} {state : Rows × Redirection}
    (success : replayed log base = .ok state) : replayed (log ++ [w]) base = w.replay state := by
  rw [replayed, List.foldlM_append]
  change (replayed log base >>= fun state => [w].foldlM (fun state w => w.replay state) state) = _
  simp only [success, List.foldlM_cons, List.foldlM_nil, bind_pure]
  rfl

theorem replayed_concat_of_refused {log : List Write} {w : Write} {base : Rows} {e : Error}
    (refused : replayed log base = .error e) : replayed (log ++ [w]) base = .error e := by
  rw [replayed, List.foldlM_append]
  change (replayed log base >>= fun state => [w].foldlM (fun state w => w.replay state) state) = _
  rw [refused]
  rfl

/-! ## What comes out -/

/-- A rule type of a log as it is kept: in the place of the one that is there, if there is one. -/
def landed (base : Rows) (r : ContentRow RuleType) : ContentRow RuleType :=
  { r with id := ((base.ruleType? r.project r.name).map ContentRow.id).getD r.id }

theorem putRow_eq_landed (base : Rows) (r : ContentRow RuleType) :
    (Tables.putRow r base.ruleTypes).1 = landed base r := Tables.putRow_fst

/-- The rows after the log of a transaction was replayed on the tables `base`. -/
structure Merged (base : Rows) (tx : Transaction) (rows : Rows) (redirection : Redirection) :
    Prop where
  bundles : rows.bundles = base.bundles ++
    (bundlesOf tx.log).filter fun b => (base.bundle? b.space b.name).isNone
  subscriptions : rows.subscriptions =
    base.subscriptions ++ (subscriptionsOf tx.log).map redirection.lead
  ruleTypeMarks : base.ruleTypes.map ContentRow.mark <+: rows.ruleTypes.map ContentRow.mark
  ruleTypes : ∀ r, r ∈ rows.ruleTypes ↔
    r ∈ base.ruleTypes ∧ lastWrite tx.log r.place = none ∨
      ∃ w, lastWrite tx.log r.place = some w ∧ r = landed base w
  profiles : rows.profiles = base.profiles ++ profilesOf tx.log
  /-- The bundles that the transaction sees are there under the same names. -/
  sameBundles : ∀ b ∈ tx.rows.bundles,
    ∃ c ∈ rows.bundles, c.id = redirection.target b.id ∧ c.names = b.names
  redirected : ∀ id ∈ redirection.map Prod.fst, id ∈ (bundlesOf tx.log).map (·.id)
  intact : rows.Intact

namespace Merged

variable {t : TxId} {s base rows : Rows} {tx : Transaction} {redirection : Redirection}

theorem start (kept : s.Keeps base) (intact : base.Intact) : Merged base (.start s) base [] where
  bundles := by simp [Transaction.start, bundlesOf]
  subscriptions := by simp [Transaction.start, subscriptionsOf]
  ruleTypeMarks := List.prefix_rfl
  ruleTypes := by simp [Transaction.start, lastWrite, ruleTypesOf]
  profiles := by simp [Transaction.start, profilesOf]
  sameBundles b member := ⟨b, kept.bundles.subset member, rfl, rfl⟩
  redirected := by simp
  intact := intact

theorem keeps (merged : Merged base tx rows redirection) : base.Keeps rows where
  bundles := merged.bundles ▸ List.prefix_append ..
  subscriptions := merged.subscriptions ▸ List.prefix_append ..
  ruleTypes := merged.ruleTypeMarks
  profiles := merged.profiles ▸ List.prefix_append ..

/-- The added bundles and subscriptions have ids that the transaction has given out. -/
theorem issuedBelow (merged : Merged base tx rows redirection) (history : History t s tx)
    {h : Handle} {bound bound' : Nat} (below : base.IssuedBelow h bound) (le : bound ≤ bound')
    (own : ∀ id, Issued t tx id → ∀ n, id = .issued h n → n < bound') :
    rows.IssuedBelow h bound' := by
  apply below.extend (Issued t tx) le
  · intro b member
    rw [merged.bundles] at member
    rcases List.mem_append.mp member with old | added
    · exact .inl old
    · exact .inr (history.issued_bundles b (List.mem_filter.mp added).1)
  · intro row member
    rw [merged.subscriptions] at member
    rcases List.mem_append.mp member with old | added
    · exact .inl old
    · obtain ⟨staged, present, rfl⟩ := List.mem_map.mp added
      exact .inr (history.issued_subscriptions staged present)
  · exact own

/-- The ids that the transaction gives out next are new. -/
private theorem issuedBelow_own (merged : Merged base tx rows redirection)
    (history : History t s tx) (below : base.IssuedBelow (.transaction t) 0) :
    rows.IssuedBelow (.transaction t) tx.issued :=
  merged.issuedBelow history below (Nat.zero_le _) fun _ own _ same => own.lt same

theorem linked (merged : Merged base tx rows redirection) (history : History t s tx)
    (kept : s.Keeps base) {subscription : Option RowId}
    (linked : tx.rows.linked subscription = true) : rows.linked subscription = true := by
  apply Tables.linked_iff.mpr
  intro id member
  obtain ⟨row, present, rfl⟩ := List.mem_map.mp (Tables.linked_iff.mp linked id member)
  rw [merged.subscriptions, List.map_append, List.map_map]
  rcases List.mem_append.mp (history.subscriptions ▸ present) with old | staged
  · exact List.mem_append_left _ (List.mem_map.mpr ⟨row, kept.subscriptions.subset old, rfl⟩)
  · exact List.mem_append_right _ (List.mem_map.mpr ⟨row, staged, rfl⟩)

/-! ### Keys -/

theorem hasBundle_lead (merged : Merged base tx rows redirection) {row : Subscription}
    (known : tx.rows.hasBundle row.bundle = true) :
    rows.hasBundle (redirection.lead row).bundle = true := by
  obtain ⟨b, member, same⟩ := List.mem_map.mp (Tables.hasBundle_iff.mp known)
  obtain ⟨c, present, target, -⟩ := merged.sameBundles b member
  exact Tables.hasBundle_iff.mpr (List.mem_map.mpr ⟨c, present, by rw [target, same]; rfl⟩)

/-- A subscription is led to the bundle that the transaction has subscribed. -/
theorem keyOf_lead (merged : Merged base tx rows redirection) (intact : tx.rows.Intact)
    {row : Subscription} (known : tx.rows.hasBundle row.bundle = true) :
    keyOf rows (redirection.lead row) = keyOf tx.rows row := by
  obtain ⟨b, member, same⟩ := List.mem_map.mp (Tables.hasBundle_iff.mp known)
  obtain ⟨c, present, target, names⟩ := merged.sameBundles b member
  obtain ⟨space, name⟩ : c.space = b.space ∧ c.name = b.name := by
    simpa [BundleRow.names] using names
  rw [keyOf_of_bundle intact member same,
    keyOf_of_bundle merged.intact present (by rw [target, same]; rfl), space, name]
  rfl

theorem keys_rows (merged : Merged base tx rows redirection) (history : History t s tx)
    (intactBase : base.Intact) (intact : tx.rows.Intact) :
    keys rows = keys base ++ tx.staged := by
  rw [keys, merged.subscriptions, List.map_append, List.map_map,
    map_keyOf_mono merged.keeps.bundles intactBase.subscriptionBundles]
  congr 1
  exact List.map_congr_left fun row member =>
    merged.keyOf_lead intact (history.hasBundle_of_staged intact row member)

/-! ### One more write -/

section Bundle

variable {space name : String}

/-- A bundle whose names are unknown is added. -/
private theorem bundle_of_absent (merged : Merged base tx rows redirection)
    (history : History t s tx) (below : base.IssuedBelow (.transaction t) 0)
    (fresh : ∀ b ∈ tx.rows.bundles, b.id ≠ tx.nextId t)
    (absent : rows.bundle? space name = none) :
    Merged base (tx.after (tx.rows.addBundle ⟨tx.nextId t, space, name⟩)
      (.bundle ⟨tx.nextId t, space, name⟩)) (rows.addBundle ⟨tx.nextId t, space, name⟩)
      redirection := by
  have absentBase : base.bundle? space name = none := merged.keeps.bundles.find?_eq_none absent
  have new : tx.nextId t ∉ rows.bundles.map (·.id) :=
    (merged.issuedBelow_own history below).bundle_new
  have unredirected : redirection.target (tx.nextId t) = tx.nextId t := by
    apply Redirection.target_of_not_mem
    intro member
    obtain ⟨b, logged, same⟩ := List.mem_map.mp (merged.redirected _ member)
    exact fresh b (history.bundles ▸ List.mem_append_right _ logged) same
  constructor
  · simp [Transaction.after, Tables.addBundle, Write.bundle?, merged.bundles, absentBase]
  · simpa [Transaction.after, Tables.addBundle, Write.subscription?] using merged.subscriptions
  · exact merged.ruleTypeMarks
  · simpa [Transaction.after, Tables.addBundle] using merged.ruleTypes
  · simpa [Transaction.after, Tables.addBundle, Write.profile?] using merged.profiles
  · intro b member
    rcases List.mem_append.mp member with old | added
    · obtain ⟨c, present, same⟩ := merged.sameBundles b old
      exact ⟨c, List.mem_append_left _ present, same⟩
    · obtain rfl := List.mem_singleton.mp added
      exact ⟨_, List.mem_append_right _ added, unredirected.symm, rfl⟩
  · intro id member
    simpa [Transaction.after, Write.bundle?] using Or.inl (merged.redirected id member)
  · exact merged.intact.addBundle new absent

/-- A bundle gives way to the one of its names, and references are redirected. -/
private theorem bundle_of_present (merged : Merged base tx rows redirection)
    (history : History t s tx) (intact : tx.rows.Intact)
    (fresh : ∀ b ∈ tx.rows.bundles, b.id ≠ tx.nextId t) {there : BundleRow}
    (member : there ∈ rows.bundles) (names : there.names = (space, name))
    (inBase : base.bundle? space name = some there) :
    Merged base (tx.after (tx.rows.addBundle ⟨tx.nextId t, space, name⟩)
      (.bundle ⟨tx.nextId t, space, name⟩)) rows ((tx.nextId t, there.id) :: redirection) := by
  have led : (subscriptionsOf tx.log).map
      (Redirection.lead ((tx.nextId t, there.id) :: redirection)) =
        (subscriptionsOf tx.log).map redirection.lead := by
    apply List.map_congr_left
    intro row staged
    obtain ⟨b, bundle, id⟩ := List.mem_map.mp
      (Tables.hasBundle_iff.mp (history.hasBundle_of_staged intact row staged))
    exact Redirection.lead_cons_ne fun same => fresh b bundle (id.trans same)
  constructor
  · simp [Transaction.after, Write.bundle?, merged.bundles, inBase]
  · simpa [Transaction.after, Write.subscription?, led] using merged.subscriptions
  · exact merged.ruleTypeMarks
  · simpa [Transaction.after] using merged.ruleTypes
  · simpa [Transaction.after, Write.profile?] using merged.profiles
  · intro b present
    rcases List.mem_append.mp present with old | added
    · obtain ⟨c, bundle, id, same⟩ := merged.sameBundles b old
      exact ⟨c, bundle, by rw [id, Redirection.target_cons_ne (fresh b old)], same⟩
    · obtain rfl := List.mem_singleton.mp added
      exact ⟨there, member, Redirection.target_cons_self.symm, names⟩
  · intro id present
    rcases List.mem_cons.mp present with rfl | old
    · simp [Transaction.after, Write.bundle?]
    · simpa [Transaction.after, Write.bundle?] using Or.inl (merged.redirected id old)
  · exact merged.intact

/-- A bundle that the transaction has added is added, or gives way to the one of its names. -/
theorem bundle (merged : Merged base tx rows redirection) (history : History t s tx)
    (intactBase : base.Intact) (below : base.IssuedBelow (.transaction t) 0)
    (intact : tx.rows.Intact) (belowRows : tx.rows.IssuedBelow (.transaction t) tx.issued)
    (absent : tx.rows.bundle? space name = none) :
    ∃ rows' redirection',
      (Write.bundle ⟨tx.nextId t, space, name⟩).replay (rows, redirection) =
        .ok (rows', redirection') ∧
      Merged base (tx.after (tx.rows.addBundle ⟨tx.nextId t, space, name⟩)
        (.bundle ⟨tx.nextId t, space, name⟩)) rows' redirection' := by
  have fresh : ∀ b ∈ tx.rows.bundles, b.id ≠ tx.nextId t := fun b member same =>
    belowRows.bundle_new (List.mem_map.mpr ⟨b, member, same⟩)
  cases found : rows.bundle? space name with
  | none =>
    exact ⟨_, _, replay_bundle_of_absent found,
      merged.bundle_of_absent history below fresh found⟩
  | some there =>
    obtain ⟨member, names⟩ := merged.intact.bundle?_eq_some_iff.mp found
    have unlogged : there ∉ bundlesOf tx.log := by
      intro logged
      have seen : there ∈ tx.rows.bundles := history.bundles ▸ List.mem_append_right _ logged
      exact Tables.bundle?_eq_none_iff.mp absent (List.mem_map.mpr ⟨there, seen, names⟩)
    have inBase : there ∈ base.bundles :=
      (List.mem_append.mp (merged.bundles ▸ member)).resolve_right fun added =>
        unlogged (List.mem_filter.mp added).1
    have apart : there.id ≠ tx.nextId t := fun same =>
      Nat.not_lt_zero _ (below.bundles there inBase _ same)
    exact ⟨_, _, replay_bundle_of_present found apart,
      merged.bundle_of_present history intact fresh member names
        (intactBase.bundle?_eq_some_iff.mpr ⟨inBase, names⟩)⟩

end Bundle

/-- A subscription that the transaction has added is added, unless its key is taken. -/
theorem subscription (merged : Merged base tx rows redirection) (history : History t s tx)
    (intactBase : base.Intact) (below : base.IssuedBelow (.transaction t) 0)
    (intact : tx.rows.Intact) {row : Subscription} {seen : Rows} (id : row.id = tx.nextId t)
    (added : tx.rows.addSubscription schema row = .ok seen)
    (unclaimed : keyOf tx.rows row ∉ keys base) :
    ∃ rows', (Write.subscription row).replay (rows, redirection) = .ok (rows', redirection) ∧
      Merged base (tx.after seen (.subscription row)) rows' redirection := by
  obtain ⟨known, free, rfl⟩ := Tables.addSubscription_eq_ok_iff.mp added
  obtain ⟨key, keyed⟩ := keyOf_isSome known
  have keyLed : keyOf rows (redirection.lead row) = some key :=
    (merged.keyOf_lead intact known).trans keyed
  have freeLed : (redirection.lead row).pair ∉ rows.subscriptions.map Subscription.pair := by
    intro taken
    have claimed := (mem_keys_iff merged.intact keyLed).mpr taken
    rw [merged.keys_rows history intactBase intact] at claimed
    rcases List.mem_append.mp claimed with old | staged
    · exact unclaimed (keyed ▸ old)
    · exact free ((mem_keys_iff intact keyed).mp (history.staged_subset staged))
  have addedLed : rows.addSubscription schema (redirection.lead row) =
      .ok { rows with subscriptions := rows.subscriptions ++ [redirection.lead row] } :=
    Tables.addSubscription_eq_ok_iff.mpr ⟨merged.hasBundle_lead known, freeLed, rfl⟩
  have new : (redirection.lead row).id ∉ rows.subscriptions.map (·.id) := by
    change row.id ∉ _
    rw [id]
    exact (merged.issuedBelow_own history below).subscription_new
  exact ⟨_, replay_subscription addedLed, {
    bundles := by simpa [Transaction.after, Write.bundle?] using merged.bundles
    subscriptions := by simp [Transaction.after, Write.subscription?, merged.subscriptions]
    ruleTypeMarks := merged.ruleTypeMarks
    ruleTypes := by simpa [Transaction.after] using merged.ruleTypes
    profiles := by simpa [Transaction.after, Write.profile?] using merged.profiles
    sameBundles := merged.sameBundles
    redirected := by simpa [Transaction.after, Write.bundle?] using merged.redirected
    intact := merged.intact.addSubscription new addedLed }⟩

/-- A rule type that the transaction has put lands where it would without the rest of the log. -/
theorem landed_eq (merged : Merged base tx rows redirection) (history : History t s tx)
    (intactStart : s.Intact) (intactBase : base.Intact) (intact : tx.rows.Intact)
    {row kept : ContentRow RuleType} (isKept : kept = landed tx.rows row) :
    landed rows kept = landed base kept := by
  have keptPlace : kept.place = row.place := isKept ▸ rfl
  cases found : base.ruleType? kept.project kept.name with
  | some old =>
    obtain ⟨member, place⟩ := intactBase.ruleType?_eq_some_iff.mp found
    obtain ⟨r, present, same⟩ := List.mem_map.mp
      (merged.ruleTypeMarks.subset (List.mem_map_of_mem (f := ContentRow.mark) member))
    have sameId : r.id = old.id := congrArg Prod.fst same
    have samePlace : r.place = old.place := congrArg Prod.snd same
    have there : rows.ruleType? kept.project kept.name = some r :=
      merged.intact.ruleType?_eq_some_iff.mpr ⟨present, samePlace.trans place⟩
    simp only [landed, there, found, Option.map_some, sameId]
  | none =>
    cases there : rows.ruleType? kept.project kept.name with
    | none => simp only [landed, there, found]
    | some r =>
      -- the row there comes from the log, so the transaction has seen it and kept its id
      obtain ⟨present, place⟩ := merged.intact.ruleType?_eq_some_iff.mp there
      have absent := ContentRow.not_mem_places_of_absent found
      rcases (merged.ruleTypes r).mp present with ⟨old, -⟩ | ⟨w, last, rfl⟩
      · exact (absent (place ▸ List.mem_map_of_mem (f := ContentRow.place) old)).elim
      · have wPlace : w.place = (kept.project, kept.name) := place
        have absentThere : base.ruleType? w.project w.name = none :=
          (congrArg (fun p : Uuid × String => base.ruleType? p.1 p.2) wPlace).trans found
        have seen : tx.rows.ruleType? row.project row.name = some w := by
          refine intact.ruleType?_eq_some_iff.mpr ⟨?_, wPlace.trans keptPlace⟩
          exact (history.mem_ruleTypes intactStart.ruleTypePlaces).mpr (.inr last)
        have keptId : kept.id = w.id := by
          simp only [isKept, landed, seen, Option.map_some, Option.getD_some]
        simp only [landed, there, found, absentThere, keptId, Option.map_some, Option.map_none,
          Option.getD_some, Option.getD_none]

/-- A rule type that the transaction has put is put. -/
theorem ruleType (merged : Merged base tx rows redirection) (history : History t s tx)
    (intactStart : s.Intact) (kept : s.Keeps base) (intactBase : base.Intact)
    (intact : tx.rows.Intact) {row put : ContentRow RuleType} {seen : Rows}
    (done : tx.rows.putRuleType schema row = .ok (put, seen)) :
    ∃ rows', (Write.ruleType put).replay (rows, redirection) = .ok (rows', redirection) ∧
      Merged base (tx.after seen (.ruleType put)) rows' redirection := by
  obtain ⟨linked, isPut, rfl⟩ := Tables.putRuleType_eq_ok_iff.mp done
  rw [putRow_eq_landed] at isPut
  have lands : (Tables.putRow put rows.ruleTypes).1 = landed base put :=
    (putRow_eq_landed rows put).trans
      (merged.landed_eq history intactStart intactBase intact isPut)
  have putLinked : rows.linked put.subscription = true :=
    merged.linked history kept (by rw [isPut]; exact linked)
  have again : rows.putRuleType schema put =
      .ok (landed base put, { rows with ruleTypes := (Tables.putRow put rows.ruleTypes).2 }) :=
    Tables.putRuleType_eq_ok_iff.mpr ⟨putLinked, lands.symm, rfl⟩
  exact ⟨_, replay_ruleType again, {
    bundles := by simpa [Transaction.after, Write.bundle?] using merged.bundles
    subscriptions := by
      simpa [Transaction.after, Write.subscription?] using merged.subscriptions
    ruleTypeMarks := merged.ruleTypeMarks.trans Tables.putRow_marks
    ruleTypes := by
      intro r
      simp only [Transaction.after, Tables.mem_putRow merged.intact.ruleTypePlaces, lands,
        merged.ruleTypes r]
      have landedPlace : (landed base put).place = put.place := rfl
      by_cases here : r.place = put.place
      · rw [here, lastWrite_concat_of_place]
        simp
      · have other : r ≠ landed base put := fun same => here (same ▸ landedPlace)
        rw [lastWrite_concat_of_ne (Ne.symm here)]
        simp [here, other]
    profiles := by simpa [Transaction.after, Write.profile?] using merged.profiles
    sameBundles := merged.sameBundles
    redirected := by simpa [Transaction.after, Write.bundle?] using merged.redirected
    intact := merged.intact.putRuleType again }⟩

/-- A profile that the transaction has added is added, unless its place was taken before. -/
theorem profile (merged : Merged base tx rows redirection) (history : History t s tx)
    (kept : s.Keeps base) {row : ContentRow Profile} {seen : Rows}
    (added : tx.rows.addProfile schema row = .ok seen)
    (free : row.place ∉ base.profiles.map ContentRow.place) :
    ∃ rows', (Write.profile row).replay (rows, redirection) = .ok (rows', redirection) ∧
      Merged base (tx.after seen (.profile row)) rows' redirection := by
  obtain ⟨linked, unseen, rfl⟩ := Tables.addProfile_eq_ok_iff.mp added
  have freeRows : row.place ∉ rows.profiles.map ContentRow.place := by
    rw [merged.profiles, List.map_append]
    intro taken
    rcases List.mem_append.mp taken with old | staged
    · exact free old
    · apply unseen
      rw [history.profiles, List.map_append]
      exact List.mem_append_right _ staged
  have again : rows.addProfile schema row = .ok { rows with profiles := rows.profiles ++ [row] } :=
    Tables.addProfile_eq_ok_iff.mpr ⟨merged.linked history kept linked, freeRows, rfl⟩
  exact ⟨_, replay_profile again, {
    bundles := by simpa [Transaction.after, Write.bundle?] using merged.bundles
    subscriptions := by
      simpa [Transaction.after, Write.subscription?] using merged.subscriptions
    ruleTypeMarks := merged.ruleTypeMarks
    ruleTypes := by simpa [Transaction.after] using merged.ruleTypes
    profiles := by simp [Transaction.after, Write.profile?, merged.profiles]
    sameBundles := merged.sameBundles
    redirected := by simpa [Transaction.after, Write.bundle?] using merged.redirected
    intact := merged.intact.addProfile again }⟩

/-- Of a profile whose place was taken before it is told that it is a second one. -/
theorem profile_of_taken (merged : Merged base tx rows redirection) (history : History t s tx)
    (kept : s.Keeps base) {row : ContentRow Profile} {seen : Rows}
    (added : tx.rows.addProfile schema row = .ok seen)
    (taken : row.place ∈ base.profiles.map ContentRow.place) :
    (Write.profile row).replay (rows, redirection) = .error (.unique schema.secondProfile) := by
  obtain ⟨linked, -, -⟩ := Tables.addProfile_eq_ok_iff.mp added
  apply replay_profile_of_error
  apply Tables.addProfile_of_taken (merged.linked history kept linked)
  rw [merged.profiles, List.map_append]
  exact List.mem_append_left _ taken

end Merged

/-! ## The outcome -/

/-- Whether a profile that a log adds is in a place that has been taken. -/
def Displaced (base : Rows) (log : List Write) : Prop :=
  ∃ p ∈ profilesOf log, p.place ∈ base.profiles.map ContentRow.place

/-- How the replay of a log ends. -/
inductive Outcome (base : Rows) (tx : Transaction) : Except Error (Rows × Redirection) → Prop
  | merged {rows : Rows} {redirection : Redirection} (free : ¬ Displaced base tx.log)
      (merged : Merged base tx rows redirection) : Outcome base tx (.ok (rows, redirection))
  | refused (displaced : Displaced base tx.log) :
      Outcome base tx (.error (.unique schema.secondProfile))

theorem displaced_concat_iff {base : Rows} {log : List Write} {w : Write} :
    Displaced base (log ++ [w]) ↔
      Displaced base log ∨ ∃ p ∈ w.profile?, p.place ∈ base.profiles.map ContentRow.place := by
  simp [Displaced, or_and_right, exists_or]

/-- What adds no profile displaces none. -/
private theorem not_displaced_concat {base : Rows} {log : List Write} {w : Write}
    (free : ¬ Displaced base log) (other : w.profile? = none) :
    ¬ Displaced base (log ++ [w]) := by
  rw [displaced_concat_iff, other]
  simpa using free

private theorem Outcome.step {base : Rows} {tx tx' : Transaction} {w : Write}
    (outcome : Outcome base tx (replayed tx.log base)) (log : tx'.log = tx.log ++ [w])
    (next : ∀ rows redirection, ¬ Displaced base tx.log → Merged base tx rows redirection →
      Outcome base tx' (w.replay (rows, redirection))) :
    Outcome base tx' (replayed tx'.log base) := by
  generalize result : replayed tx.log base = replay at outcome
  rw [log]
  cases outcome with
  | merged free merged =>
    rw [replayed_concat result]
    exact next _ _ free merged
  | refused displaced =>
    rw [replayed_concat_of_refused result]
    exact .refused (log ▸ displaced_concat_iff.mpr (.inl displaced))

/-- The log of a transaction can be replayed on tables that have moved on, unless a place of one of
its profiles has been taken: no other handle has subscribed what the transaction has. -/
theorem replayed_outcome {t : TxId} {s base : Rows} {tx : Transaction} (history : History t s tx)
    (intactStart : s.Intact) (kept : s.Keeps base) (intactBase : base.Intact)
    (below : base.IssuedBelow (.transaction t) 0)
    (unclaimed : ∀ key ∈ tx.staged, key ∉ keys base) :
    Outcome base tx (replayed tx.log base) := by
  have belowStart : s.IssuedBelow (.transaction t) 0 := below.of_keeps kept
  induction history with
  | start =>
    exact .merged (by simp [Displaced, Transaction.start, profilesOf]) (.start kept intactBase)
  | @bundle tx space name history absent ih =>
    have intact := history.intact intactStart belowStart
    rw [history.staged_bundle intact] at unclaimed
    apply (ih unclaimed).step rfl
    intro rows redirection free merged
    obtain ⟨rows', redirection', replays, merged'⟩ := merged.bundle history intactBase below intact
      (history.issuedBelow belowStart) absent
    rw [replays]
    exact .merged (not_displaced_concat free rfl) merged'
  | @subscription tx project bundle version seen history added ih =>
    have intact := history.intact intactStart belowStart
    rw [staged_subscription added] at unclaimed
    have earlier : ∀ key ∈ tx.staged, key ∉ keys base := fun key staged =>
      unclaimed key (List.mem_append_left _ staged)
    apply (ih earlier).step rfl
    intro rows redirection free merged
    obtain ⟨rows', replays, merged'⟩ := merged.subscription history intactBase below intact rfl added
      (unclaimed _ (List.mem_append_right _ (List.mem_singleton_self _)))
    rw [replays]
    exact .merged (not_displaced_concat free rfl) merged'
  | @ruleType tx content put seen history done ih =>
    rw [staged_ruleType done] at unclaimed
    apply (ih unclaimed).step rfl
    intro rows redirection free merged
    obtain ⟨rows', replays, merged'⟩ := merged.ruleType history intactStart kept intactBase
      (history.intact intactStart belowStart) done
    rw [replays]
    exact .merged (not_displaced_concat free rfl) merged'
  | @profile tx content seen history added ih =>
    rw [staged_profile added] at unclaimed
    apply (ih unclaimed).step rfl
    intro rows redirection free merged
    by_cases taken : (content.row (tx.nextId t) content.definition.name).place ∈
        base.profiles.map ContentRow.place
    · rw [merged.profile_of_taken history kept added taken]
      exact .refused (displaced_concat_iff.mpr (.inr ⟨_, rfl, taken⟩))
    · obtain ⟨rows', replays, merged'⟩ := merged.profile history kept added taken
      rw [replays]
      apply Outcome.merged _ merged'
      intro displaced
      rcases displaced_concat_iff.mp displaced with earlier | ⟨p, isLast, last⟩
      · exact free earlier
      · exact taken (Option.some.inj isLast ▸ last)

end RuleCatalog.Store.Memory
