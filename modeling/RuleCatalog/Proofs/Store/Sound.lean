import Mathlib.Data.List.Flatten
import RuleCatalog.Proofs.Store.Replay
import RuleCatalog.Proofs.Store.Run

/-! # What holds in every state of a store in memory

The committed tables, the open transactions and the reservations belong together: the committed
tables keep their rules and still have all that any transaction has found in them, ids that are
about to be given out are new, no two subscriptions have the same key wherever they are, and what is
reserved is what open transactions have added. `sound_run` shows this for every run.
-/

namespace RuleCatalog.Store.Memory

open Transaction

/-! ## Reservations -/

namespace Reservations

variable {r : Reservations} {key other : SubscriptionKey} {t u : TxId}

theorem mem_reserve_iff :
    (other, u) ∈ r.reserve key t ↔ other = key ∧ u = t ∨ (other, u) ∈ r ∧ other ≠ key := by
  simp [reserve]

theorem mem_release_iff : (key, u) ∈ r.release t ↔ (key, u) ∈ r ∧ u ≠ t := by
  simp [release]

theorem mem_of_lookup (found : r.lookup key = some t) : (key, t) ∈ r := by
  obtain ⟨before, after, rfl, -⟩ := List.lookup_eq_some_iff.mp found
  simp

theorem exists_lookup (member : (key, t) ∈ r) : ∃ u, r.lookup key = some u :=
  Option.isSome_iff_exists.mp
    (List.lookup_isSome_iff.mpr ⟨(key, t), member, beq_self_eq_true key⟩)

theorem held_of_mem (member : (key, t) ∈ r) : r.held key = true :=
  Option.isSome_iff_exists.mpr (exists_lookup member)

theorem eq_of_not_heldByOther (free : r.heldByOther key t = false) (found : r.lookup key = some u) :
    u = t := by
  simpa [heldByOther, found] using free

end Reservations

/-! ## The invariant -/

/-- The keys of all subscriptions, committed ones and those that open transactions have added. -/
def claims (m : Memory) : List (Option SubscriptionKey) :=
  keys m.committed ++ m.transactions.flatMap fun e => e.2.staged

/-- What holds in every state. -/
structure Sound (m : Memory) : Prop where
  numbers : (m.transactions.map Prod.fst).Nodup
  begun : ∀ e ∈ m.transactions, e.1 ∈ m.begun
  intact : m.committed.Intact
  issued : m.committed.IssuedBelow .direct m.issued
  /-- Ids of transactions that are open or still to come have not been committed. -/
  unissued : ∀ t, (t ∈ m.begun → (m.transaction? t).isSome) →
    m.committed.IssuedBelow (.transaction t) 0
  histories : ∀ t tx, m.transaction? t = some tx →
    ∃ s : Rows, s.Intact ∧ s.Keeps m.committed ∧ History t s tx
  claims : m.claims.Nodup
  reserved : ∀ key t, (key, t) ∈ m.reservations ↔
    ∃ tx, m.transaction? t = some tx ∧ some key ∈ tx.staged

namespace Sound

variable {m m' : Memory} {t u : TxId} {tx tx' : Transaction}

theorem begun_of_open (sound : Sound m) (isOpen : m.transaction? t = some tx) : t ∈ m.begun :=
  sound.begun _ ((mem_transactions_iff sound.numbers).mpr isOpen)

theorem unissued_of_open (sound : Sound m) (isOpen : m.transaction? t = some tx) :
    m.committed.IssuedBelow (.transaction t) 0 :=
  sound.unissued t fun _ => Option.isSome_iff_exists.mpr ⟨tx, isOpen⟩

theorem rows_intact (sound : Sound m) (isOpen : m.transaction? t = some tx) : tx.rows.Intact := by
  obtain ⟨s, intact, kept, history⟩ := sound.histories t tx isOpen
  exact history.intact intact ((sound.unissued_of_open isOpen).of_keeps kept)

/-! ### Claims -/

/-- The claims of one transaction can be named first. -/
private theorem perm_claims {transactions rest : List (TxId × Transaction)} (committed : Rows)
    (perm : transactions.Perm ((t, tx) :: rest)) :
    (keys committed ++ transactions.flatMap fun e => e.2.staged).Perm
      (tx.staged ++ (keys committed ++ rest.flatMap fun e => e.2.staged)) := by
  apply ((perm.flatMap_right _).append_left _).trans
  rw [List.flatMap_cons, ← List.append_assoc, ← List.append_assoc]
  exact List.perm_append_comm.append_right _

theorem claims_perm (numbers : (m.transactions.map Prod.fst).Nodup)
    (isOpen : m.transaction? t = some tx) :
    m.claims.Perm (tx.staged ++ (m.without t).claims) :=
  perm_claims m.committed (transactions_perm numbers isOpen)

theorem claims_withTransaction_perm (numbers : (m.transactions.map Prod.fst).Nodup)
    (isOpen : m.transaction? t = some tx) :
    (m.withTransaction t tx').claims.Perm (tx'.staged ++ (m.without t).claims) :=
  perm_claims m.committed (withTransaction_perm numbers isOpen)

theorem unclaimed_of_staged (sound : Sound m) (isOpen : m.transaction? t = some tx) :
    ∀ key ∈ tx.staged, key ∉ (m.without t).claims :=
  (List.nodup_append'.mp ((claims_perm sound.numbers isOpen).nodup_iff.mp sound.claims)).2.2

theorem uncommitted_of_staged (sound : Sound m) (isOpen : m.transaction? t = some tx) :
    ∀ key ∈ tx.staged, key ∉ keys m.committed := fun key staged committed =>
  sound.unclaimed_of_staged isOpen key staged (List.mem_append_left _ committed)

theorem staged_apart (sound : Sound m) (isOpen : m.transaction? t = some tx)
    (otherOpen : m.transaction? u = some tx') {key : Option SubscriptionKey}
    (staged : key ∈ tx.staged) (otherStaged : key ∈ tx'.staged) : t = u := by
  by_contra apart
  apply sound.unclaimed_of_staged isOpen key staged
  apply List.mem_append_right
  have stillOpen : (m.without t).transaction? u = some tx' :=
    (transaction?_without_ne (Ne.symm apart)).trans otherOpen
  have numbers : ((m.without t).transactions.map Prod.fst).Nodup :=
    sound.numbers.sublist (List.filter_sublist.map _)
  exact List.mem_flatMap.mpr ⟨(u, tx'), (mem_transactions_iff numbers).mpr stillOpen, otherStaged⟩

theorem reserved_unique (sound : Sound m) {key : SubscriptionKey}
    (reserved : (key, t) ∈ m.reservations) (again : (key, u) ∈ m.reservations) : t = u := by
  obtain ⟨tx, isOpen, staged⟩ := (sound.reserved key t).mp reserved
  obtain ⟨tx', otherOpen, otherStaged⟩ := (sound.reserved key u).mp again
  exact sound.staged_apart isOpen otherOpen staged otherStaged

end Sound

theorem sound_empty : Sound empty where
  numbers := List.nodup_nil
  begun := by simp [empty]
  intact := Tables.intact_empty
  issued := by constructor <;> simp [empty, Tables.empty]
  unissued _ _ := by constructor <;> simp [empty, Tables.empty]
  histories := by simp [empty, transaction?]
  claims := by simp [claims, keys, empty, Tables.empty]
  reserved := by simp [empty, transaction?]

/-! ## What is done to a store -/

namespace Sound

variable {m : Memory} {t : TxId} {tx tx' : Transaction} {rows : Rows}

/-- Whoever has added a subscription holds its key. -/
theorem not_mem_claims (sound : Sound m) {key : SubscriptionKey}
    (uncommitted : some key ∉ keys m.committed) (unreserved : ∀ u, (key, u) ∉ m.reservations) :
    some key ∉ m.claims := by
  intro claimed
  obtain ⟨e, isOpen, staged⟩ :=
    List.mem_flatMap.mp ((List.mem_append.mp claimed).resolve_left uncommitted)
  exact unreserved e.1 ((sound.reserved key e.1).mpr
    ⟨e.2, (mem_transactions_iff sound.numbers).mp isOpen, staged⟩)

/-- Ends a transaction. -/
theorem without (sound : Sound m) (t : TxId) : Sound (m.without t) where
  numbers := sound.numbers.sublist (List.filter_sublist.map _)
  begun e member := sound.begun e (List.mem_filter.mp member).1
  intact := sound.intact
  issued := sound.issued
  unissued u ready := sound.unissued u fun used => by
    obtain ⟨tx, isOpen⟩ := Option.isSome_iff_exists.mp (ready used)
    exact Option.isSome_iff_exists.mpr ⟨tx, (transaction?_without_eq_some_iff.mp isOpen).2⟩
  histories u tx isOpen := sound.histories u tx (transaction?_without_eq_some_iff.mp isOpen).2
  claims := sound.claims.sublist ((List.filter_sublist.flatMap _).append_left _)
  reserved key u := by
    simp only [Memory.without, Reservations.mem_release_iff, sound.reserved]
    constructor
    · rintro ⟨⟨tx, isOpen, staged⟩, apart⟩
      exact ⟨tx, transaction?_without_eq_some_iff.mpr ⟨apart, isOpen⟩, staged⟩
    · rintro ⟨tx, isOpen, staged⟩
      obtain ⟨apart, isOpen⟩ := transaction?_without_eq_some_iff.mp isOpen
      exact ⟨⟨tx, isOpen, staged⟩, apart⟩

/-- Changes the committed tables. -/
theorem advance (sound : Sound m) {n : Nat} (kept : m.committed.Keeps rows) (intact : rows.Intact)
    (issued : rows.IssuedBelow .direct n)
    (unissued : ∀ t, (t ∈ m.begun → (m.transaction? t).isSome) →
      rows.IssuedBelow (.transaction t) 0)
    (claims : (keys rows ++ m.transactions.flatMap fun e => e.2.staged).Nodup) :
    Sound { m with committed := rows, issued := n } where
  numbers := sound.numbers
  begun := sound.begun
  intact := intact
  issued := issued
  unissued := unissued
  histories t tx isOpen := by
    obtain ⟨s, intact, before, history⟩ := sound.histories t tx isOpen
    exact ⟨s, intact, before.trans kept, history⟩
  claims := claims
  reserved := sound.reserved

/-- Adds nothing, or rows with the next id, to the committed tables. -/
private theorem after (sound : Sound m) (kept : m.committed.Keeps rows) (intact : rows.Intact)
    (bundles : ∀ b ∈ rows.bundles, b ∈ m.committed.bundles ∨ b.id = m.nextId)
    (subscriptions : ∀ s ∈ rows.subscriptions, s ∈ m.committed.subscriptions ∨ s.id = m.nextId)
    (claims : (keys rows ++ m.transactions.flatMap fun e => e.2.staged).Nodup) :
    Sound (m.after rows) := by
  apply sound.advance kept intact
  · apply sound.issued.extend (· = m.nextId) (Nat.le_succ _) bundles subscriptions
    rintro _ rfl n same
    cases same
    exact Nat.lt_succ_self _
  · intro t ready
    apply (sound.unissued t ready).extend (· = m.nextId) (Nat.le_refl _) bundles subscriptions
    rintro _ rfl n same
    cases same
  · exact claims

private theorem direct_subscription (sound : Sound m) {row : Subscription}
    (id : row.id = m.nextId)
    (unreserved : (keyOf m.committed row).any m.reservations.held = false)
    (added : m.committed.addSubscription schema row = .ok rows) : Sound (m.after rows) := by
  have same := keys_addSubscription added
  have kept := Tables.Keeps.addSubscription added
  have intact := sound.intact.addSubscription (id ▸ sound.issued.subscription_new) added
  obtain ⟨known, free, rfl⟩ := Tables.addSubscription_eq_ok_iff.mp added
  obtain ⟨key, keyed⟩ := keyOf_isSome known
  have uncommitted : some key ∉ keys m.committed := fun member =>
    free ((mem_keys_iff sound.intact keyed).mp member)
  have unclaimed : some key ∉ m.claims := by
    apply sound.not_mem_claims uncommitted
    intro u reserved
    simp [keyed, Reservations.held_of_mem reserved] at unreserved
  apply sound.after kept intact
  · exact fun b member => .inl member
  · simp only [List.mem_append, List.mem_singleton]
    rintro s (old | rfl)
    · exact .inl old
    · exact .inr id
  · rw [same, keyed, List.append_assoc]
    exact List.perm_middle.nodup_iff.mpr (List.nodup_cons.mpr ⟨unclaimed, sound.claims⟩)

/-- Asks the store itself. -/
theorem direct (sound : Sound m) {m' : Memory} (step : DirectStep m m') : Sound m' := by
  cases step with
  | same => exact sound
  | @bundle space name absent =>
    have kept := Tables.Keeps.addBundle m.committed ⟨m.nextId, space, name⟩
    have same := keys_addBundle sound.intact ⟨m.nextId, space, name⟩
    apply sound.after kept (sound.intact.addBundle sound.issued.bundle_new absent)
    · simp only [Tables.addBundle, List.mem_append, List.mem_singleton]
      rintro b (old | rfl)
      · exact .inl old
      · exact .inr rfl
    · exact fun s member => .inl member
    · exact same ▸ sound.claims
  | subscription unreserved added => exact sound.direct_subscription rfl unreserved added
  | ruleType put =>
    have kept := Tables.Keeps.putRuleType put
    have intact := sound.intact.putRuleType put
    obtain ⟨-, -, rfl⟩ := Tables.putRuleType_eq_ok_iff.mp put
    exact sound.after kept intact (fun b member => .inl member) (fun s member => .inl member)
      sound.claims
  | profile added =>
    have kept := Tables.Keeps.addProfile added
    have intact := sound.intact.addProfile added
    obtain ⟨-, -, rfl⟩ := Tables.addProfile_eq_ok_iff.mp added
    exact sound.after kept intact (fun b member => .inl member) (fun s member => .inl member)
      sound.claims

/-- Changes an open transaction, and the reservations with what it has added. -/
private theorem withTransaction (sound : Sound m) (isOpen : m.transaction? t = some tx)
    {reservations : Reservations} (history : ∀ s, History t s tx → History t s tx')
    (claims : (tx'.staged ++ (m.without t).claims).Nodup)
    (own : ∀ key, (key, t) ∈ reservations ↔ some key ∈ tx'.staged)
    (others : ∀ key, ∀ u ≠ t, (key, u) ∈ reservations ↔ (key, u) ∈ m.reservations) :
    Sound { m.withTransaction t tx' with reservations := reservations } where
  numbers := by
    have same : (m.withTransaction t tx').transactions.map Prod.fst =
        m.transactions.map Prod.fst := by simp [Memory.withTransaction]
    exact same ▸ sound.numbers
  begun e member := by
    obtain ⟨old, present, same⟩ := List.mem_map.mp member
    exact same ▸ sound.begun old present
  intact := sound.intact
  issued := sound.issued
  unissued u ready := sound.unissued u fun used => by
    by_cases same : u = t
    · rw [same, isOpen]
      rfl
    · exact transaction?_withTransaction_ne same ▸ ready used
  histories u other otherOpen := by
    by_cases same : u = t
    · subst same
      obtain rfl : tx' = other :=
        Option.some.inj ((transaction?_withTransaction_self isOpen).symm.trans otherOpen)
      obtain ⟨s, intact, kept, before⟩ := sound.histories u tx isOpen
      exact ⟨s, intact, kept, history s before⟩
    · exact sound.histories u other ((transaction?_withTransaction_ne same).symm.trans otherOpen)
  claims := (claims_withTransaction_perm sound.numbers isOpen).nodup_iff.mpr claims
  reserved key u := by
    by_cases same : u = t
    · subst same
      exact (own key).trans ⟨fun staged => ⟨tx', transaction?_withTransaction_self isOpen, staged⟩,
        fun ⟨other, otherOpen, staged⟩ => Option.some.inj
          ((transaction?_withTransaction_self isOpen).symm.trans otherOpen) ▸ staged⟩
    · rw [others key u same, sound.reserved key u]
      exact exists_congr fun other => and_congr_left fun _ =>
        iff_of_eq (congrArg (· = some other) (transaction?_withTransaction_ne same).symm)

/-- What an open transaction has reserved is what it has added. -/
theorem reserved_iff_staged (sound : Sound m) (isOpen : m.transaction? t = some tx)
    {key : SubscriptionKey} : (key, t) ∈ m.reservations ↔ some key ∈ tx.staged := by
  rw [sound.reserved]
  constructor
  · rintro ⟨other, otherOpen, staged⟩
    exact Option.some.inj (isOpen.symm.trans otherOpen) ▸ staged
  · intro staged
    exact ⟨tx, isOpen, staged⟩

private theorem ask_subscription (sound : Sound m) (isOpen : m.transaction? t = some tx)
    {row : Subscription} {key : SubscriptionKey}
    (history : ∀ s, History t s tx → History t s (tx.after rows (.subscription row)))
    (keyed : keyOf tx.rows row = some key) (unreserved : m.reservations.heldByOther key t = false)
    (uncommitted : hasKey m.committed key = false)
    (added : tx.rows.addSubscription schema row = .ok rows) :
    Sound { m.withTransaction t (tx.after rows (.subscription row)) with
      reservations := m.reservations.reserve key t } := by
  obtain ⟨s, -, -, before⟩ := sound.histories t tx isOpen
  obtain ⟨-, free, -⟩ := Tables.addSubscription_eq_ok_iff.mp added
  have staged : (tx.after rows (.subscription row)).staged = tx.staged ++ [some key] :=
    keyed ▸ staged_subscription added
  have unstaged : some key ∉ tx.staged := fun member =>
    free ((mem_keys_iff (sound.rows_intact isOpen) keyed).mp (before.staged_subset member))
  have unclaimed : ∀ u, (key, u) ∉ m.reservations := by
    intro u reserved
    obtain ⟨v, found⟩ := Reservations.exists_lookup reserved
    obtain rfl := Reservations.eq_of_not_heldByOther unreserved found
    exact unstaged ((sound.reserved_iff_staged isOpen).mp (Reservations.mem_of_lookup found))
  have unkept : some key ∉ keys m.committed := fun committed => by
    simp [(hasKey_iff sound.intact).mpr committed] at uncommitted
  have claims := claims_perm sound.numbers isOpen
  apply sound.withTransaction isOpen history
  · have new : some key ∉ tx.staged ++ (m.without t).claims := fun member =>
      sound.not_mem_claims unkept unclaimed (claims.mem_iff.mpr member)
    rw [staged, List.append_assoc]
    exact List.perm_middle.nodup_iff.mpr
      (List.nodup_cons.mpr ⟨new, claims.nodup_iff.mp sound.claims⟩)
  · intro other
    rw [Reservations.mem_reserve_iff, sound.reserved_iff_staged isOpen, staged, List.mem_append,
      List.mem_singleton, Option.some_inj]
    by_cases same : other = key <;> simp [same]
  · intro other u apart
    rw [Reservations.mem_reserve_iff]
    by_cases same : other = key
    · simp [same, apart, unclaimed u]
    · simp [same]

/-- Asks a transaction. -/
theorem ask (sound : Sound m) (isOpen : m.transaction? t = some tx) {reservations : Reservations}
    (step : Step t m.committed (tx, m.reservations) (tx', reservations)) :
    Sound { m.withTransaction t tx' with reservations := reservations } := by
  have own : ∀ key, (key, t) ∈ m.reservations ↔ some key ∈ tx.staged := fun _ =>
    sound.reserved_iff_staged isOpen
  have claims : (tx.staged ++ (m.without t).claims).Nodup :=
    (claims_perm sound.numbers isOpen).nodup_iff.mp sound.claims
  have history : ∀ s, History t s tx → History t s tx' := fun _ => step.history
  -- what is staged and reserved changes with a subscription and with nothing else
  cases step with
  | same => exact sound.withTransaction isOpen history claims own fun _ _ _ => .rfl
  | @bundle _ _ space name absent =>
    obtain ⟨s, -, -, before⟩ := sound.histories t tx isOpen
    have same := before.staged_bundle (sound.rows_intact isOpen) ⟨tx.nextId t, space, name⟩
    exact sound.withTransaction isOpen history (same ▸ claims) (same ▸ own) fun _ _ _ => .rfl
  | subscription keyed unreserved uncommitted added =>
    exact sound.ask_subscription isOpen history keyed unreserved uncommitted added
  | ruleType put =>
    have same := staged_ruleType put
    exact sound.withTransaction isOpen history (same ▸ claims) (same ▸ own) fun _ _ _ => .rfl
  | profile added =>
    have same := staged_profile added
    exact sound.withTransaction isOpen history (same ▸ claims) (same ▸ own) fun _ _ _ => .rfl

/-- Begins a transaction. -/
theorem begin (sound : Sound m) (fresh : t ∉ m.begun) :
    Sound { m with
      transactions := (t, .start m.committed) :: m.transactions, begun := t :: m.begun } where
  numbers := by
    apply List.nodup_cons.mpr ⟨_, sound.numbers⟩
    intro member
    obtain ⟨e, present, same⟩ := List.mem_map.mp member
    exact fresh ((show e.1 = t from same) ▸ sound.begun e present)
  begun e member := by
    rcases List.mem_cons.mp member with rfl | old
    · exact List.mem_cons_self ..
    · exact List.mem_cons_of_mem _ (sound.begun e old)
  intact := sound.intact
  issued := sound.issued
  unissued u ready := by
    apply sound.unissued u
    intro used
    have apart : u ≠ t := fun same => fresh (same ▸ used)
    simpa [transaction?, List.lookup_cons, beq_false_of_ne apart] using
      ready (List.mem_cons_of_mem _ used)
  histories u tx isOpen := by
    by_cases same : u = t
    · obtain rfl : Transaction.start m.committed = tx := by simpa [transaction?, same] using isOpen
      exact ⟨m.committed, sound.intact, .refl _, same ▸ .start⟩
    · exact sound.histories u tx
        (by simpa [transaction?, List.lookup_cons, beq_false_of_ne same] using isOpen)
  claims := by simpa [Memory.claims, staged, Transaction.start, subscriptionsOf] using sound.claims
  reserved key u := by
    rw [sound.reserved]
    by_cases same : u = t
    · have unopened : m.transaction? t = none := Option.eq_none_iff_forall_ne_some.mpr
        fun tx isOpen => fresh (sound.begun_of_open isOpen)
      have unstaged : (Transaction.start m.committed).staged = [] := rfl
      rw [same, unopened]
      simp [transaction?, unstaged]
    · simp [transaction?, List.lookup_cons, beq_false_of_ne same]

/-- How a commit ends. -/
theorem commit_cases (sound : Sound m) (isOpen : m.transaction? t = some tx) :
    Displaced m.committed tx.log ∧
        m.commit t = (.error (.unique schema.secondProfile), m.without t) ∨
      ¬ Displaced m.committed tx.log ∧ ∃ rows redirection,
        Merged m.committed tx rows redirection ∧
          m.commit t = (.ok (), { m.without t with committed := rows }) := by
  obtain ⟨s, intact, kept, history⟩ := sound.histories t tx isOpen
  have outcome := replayed_outcome history intact kept sound.intact (sound.unissued_of_open isOpen)
    (sound.uncommitted_of_staged isOpen)
  generalize result : replayed tx.log m.committed = replay at outcome
  cases outcome with
  | refused displaced =>
    exact .inl ⟨displaced, by simp only [Memory.commit, isOpen, replay_eq, result, Except.map]⟩
  | merged free merged =>
    exact .inr ⟨free, _, _, merged, by simp only [Memory.commit, isOpen, replay_eq, result, Except.map]⟩

/-- Commits a transaction whose rows could be merged. -/
private theorem merged (sound : Sound m) (isOpen : m.transaction? t = some tx)
    {redirection : Redirection} (merged : Merged m.committed tx rows redirection) :
    Sound { m.without t with committed := rows } := by
  obtain ⟨s, intact, kept, history⟩ := sound.histories t tx isOpen
  have closed := sound.without t
  apply closed.advance merged.keeps merged.intact
  · apply merged.issuedBelow history sound.issued (Nat.le_refl _)
    rintro id ⟨_, -, known⟩ n same
    cases known.symm.trans same
  · intro u ready
    have apart : u ≠ t := by
      rintro rfl
      simpa [transaction?_without_self] using ready (sound.begun_of_open isOpen)
    apply merged.issuedBelow history (closed.unissued u ready) (Nat.le_refl _)
    rintro id ⟨_, -, known⟩ n same
    cases known.symm.trans same
    exact (apart rfl).elim
  · have same : m.claims.Perm
        (keys rows ++ (m.without t).transactions.flatMap fun e => e.2.staged) := by
      rw [merged.keys_rows history sound.intact (sound.rows_intact isOpen)]
      apply (claims_perm sound.numbers isOpen).trans
      rw [Memory.claims, ← List.append_assoc]
      exact List.perm_append_comm.append_right _
    exact same.nodup_iff.mp sound.claims

theorem commit (sound : Sound m) (t : TxId) : Sound (m.commit t).2 := by
  cases isOpen : m.transaction? t with
  | none => simpa only [Memory.commit, isOpen] using sound
  | some tx =>
    rcases sound.commit_cases isOpen with ⟨-, ended⟩ | ⟨-, rows, redirection, merged, ended⟩
    · exact ended ▸ sound.without t
    · exact ended ▸ sound.merged isOpen merged

theorem act (sound : Sound m) (a : Action) : Sound (m.act a) := by
  cases a with
  | begin t =>
    cases opened : m.begin t with
    | error e => simpa only [Memory.act, opened] using sound
    | ok m' =>
      obtain ⟨fresh, rfl⟩ := begin_eq_ok_iff.mp opened
      simpa only [Memory.act, opened] using sound.begin fresh
  | ask h r =>
    cases h with
    | direct => exact sound.direct (answerDirect_step r m)
    | transaction t =>
      cases isOpen : m.transaction? t with
      | none => simpa only [Memory.act, answer, isOpen] using sound
      | some tx =>
        simpa only [Memory.act, answer, isOpen] using
          sound.ask isOpen (answer_step r (tx, m.reservations))
  | commit t => exact sound.commit t
  | rollback t => exact sound.without t

end Sound

theorem sound_run (actions : List Action) : Sound (empty.run actions) :=
  run_induction sound_empty (fun _ a sound => sound.act a) actions

end RuleCatalog.Store.Memory
