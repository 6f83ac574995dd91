import Mathlib
import RuleCatalog.Proofs.Store.Mirror

/-! # One transaction after another

As long as transactions do not overlap, a store in memory and a database cannot be told apart, but
for the ids that they give out and the words that they have for broken rules. A transaction of the
database always has the translation of the rows that the transaction in memory has. Nothing can
disturb the latter, so its log replays to just these rows, and its commit cannot fail.
-/

namespace RuleCatalog.Store

open Memory (Sound)
open Memory.Transaction (History)

/-! ## Rounds -/

/-- A transaction from its beginning to its end, with its number in each of the two stores. -/
structure Round where
  inMemory : TxId
  inDatabase : TxId
  requests : List Request
  /-- Whether its changes are kept. Otherwise it is rolled back, or given up without a word. -/
  commits : Bool

def Round.numbers (r : Round) : TxId × TxId := (r.inMemory, r.inDatabase)

/-- The store after a transaction was asked one thing after another. -/
def Memory.asked (m : Memory) (t : TxId) (requests : List Request) : Memory :=
  requests.foldl (fun m q => (Memory.answer (.transaction t) q m).2) m

/-- Ends a transaction with its changes or without. -/
def Memory.ended (m : Memory) (t : TxId) (commits : Bool) : Except Error Unit × Memory :=
  if commits then m.commit t else (.ok (), m.rollback t)

/-- The database after a transaction was asked one thing after another. -/
def Database.asked (d : Database) (t : TxId) (requests : List Request) : Database :=
  requests.foldl (fun d q => (Database.answer (.transaction t) q d).2) d

/-- Ends a transaction with its changes or without. -/
def Database.ended (d : Database) (t : TxId) (commits : Bool) : Except Error Unit × Database :=
  if commits then d.commit t else (.ok (), d.rollback t)

/-- Both stores answer a request with the same row but for its ids, or both refuse it. A request
that is refused changes nothing, and the transaction goes on. -/
structure AnsweredAlike (ids : Renaming) (t u : TxId) (q : Request) (m : Memory) (d : Database) :
    Prop where
  alike : Alike ids q (Memory.answer (.transaction t) q m).1
    (Database.answer (.transaction u) (ids.request q) d).1
  memoryKept : ∀ e, (Memory.answer (.transaction t) q m).1 = .error e →
    (Memory.answer (.transaction t) q m).2 = m
  databaseKept : ∀ e, (Database.answer (.transaction u) (ids.request q) d).1 = .error e →
    (Database.answer (.transaction u) (ids.request q) d).2 = d
  openInMemory : ((Memory.answer (.transaction t) q m).2.transaction? t).isSome
  openInDatabase : ((Database.answer (.transaction u) (ids.request q) d).2.transaction? u).isSome

/-- Both stores end a transaction successfully, and have the same rows then but for their ids. -/
structure EndedAlike (ids : Renaming) (r : Round) (m : Memory) (d : Database) : Prop where
  inMemory : (m.ended r.inMemory r.commits).1 = .ok ()
  inDatabase : (d.ended r.inDatabase r.commits).1 = .ok ()
  rows : (d.ended r.inDatabase r.commits).2.committed =
    (stored ids).tables (m.ended r.inMemory r.commits).2.committed

/-- Both stores go through transactions alike, one after another. -/
def PlayedAlike (ids : Renaming) : List Round → Memory → Database → Prop
  | [], _, _ => True
  | r :: later, m, d => ∃ opened openedAlso,
      m.begin r.inMemory = .ok opened ∧ d.begin r.inDatabase = .ok openedAlso ∧
      (∀ asked q rest, r.requests = asked ++ q :: rest →
        AnsweredAlike ids r.inMemory r.inDatabase q (opened.asked r.inMemory asked)
          (openedAlso.asked r.inDatabase (asked.map ids.request))) ∧
      let m := opened.asked r.inMemory r.requests
      let d := openedAlso.asked r.inDatabase (r.requests.map ids.request)
      EndedAlike ids r m d ∧
      PlayedAlike ids later (m.ended r.inMemory r.commits).2 (d.ended r.inDatabase r.commits).2

/-! ## Between transactions and within -/

/-- What the stores have in common while each has one open transaction. -/
structure Paired (ids : Renaming) (t u : TxId) (tx : Memory.Transaction) (m : Memory)
    (d : Database) : Prop where
  sound : Sound m
  isOpen : m.transaction? t = some tx
  only : ∀ v, (m.transaction? v).isSome → v = t
  history : History t m.committed tx
  readable : ReadableRows tx.rows
  current : d.current = some (u, mirrored ids tx)
  committedReadable : ReadableRows m.committed
  committed : d.committed = (stored ids).tables m.committed

/-- What the stores have in common while no transaction is open. -/
structure Resting (ids : Renaming) (m : Memory) (d : Database) : Prop where
  sound : Sound m
  closed : ∀ t, m.transaction? t = none
  current : d.current = none
  readable : ReadableRows m.committed
  committed : d.committed = (stored ids).tables m.committed

theorem resting_empty (ids : Renaming) : Resting ids .empty .empty :=
  ⟨Memory.sound_empty, fun _ => rfl, rfl, ⟨nofun, nofun⟩, rfl⟩

/-- What a request does to the transaction that makes it. -/
theorem Memory.answer_of_open {m : Memory} {t : TxId} {tx : Memory.Transaction} (q : Request)
    (isOpen : m.transaction? t = some tx) : Memory.answer (.transaction t) q m =
      let (answer, tx, reservations) :=
        Memory.Transaction.answer t m.committed q (tx, m.reservations)
      (answer, { m.withTransaction t tx with reservations := reservations }) := by
  simp only [Memory.answer, isOpen]

theorem Database.answer_of_open {d : Database} {u : TxId} {tx : Database.Transaction} (q : Request)
    (isOpen : d.transaction? u = some tx) : Database.answer (.transaction u) q d =
      let (answer, tx) := Database.Transaction.answer u q tx
      (answer, { d with current := some (u, tx) }) := by
  simp only [Database.answer, isOpen]

section Round

variable {ids : Renaming} {t u : TxId} {tx : Memory.Transaction} {m : Memory} {d : Database}

namespace Paired

theorem transaction? (paired : Paired ids t u tx m d) :
    d.transaction? u = some (mirrored ids tx) := by
  simp [Database.transaction?, paired.current]

/-- Nobody else has reserved anything. -/
theorem unreserved (paired : Paired ids t u tx m d) (key : Memory.SubscriptionKey) :
    m.reservations.heldByOther key t = false := by
  apply Bool.eq_false_iff.mpr
  intro held
  obtain ⟨v, reserved, other⟩ : ∃ v, m.reservations.lookup key = some v ∧ (v != t) = true := by
    simpa only [Memory.Reservations.heldByOther, Option.any_eq_true] using held
  obtain ⟨_, isOpen, -⟩ :=
    (paired.sound.reserved key v).mp (Memory.Reservations.mem_of_lookup reserved)
  exact bne_iff_ne.mp other (paired.only v (isOpen ▸ rfl))

/-- Both transactions after a request that changed them alike. -/
theorem continued (paired : Paired ids t u tx m d) {tx' : Memory.Transaction}
    {reservations : Memory.Reservations}
    (step : Memory.Transaction.Step t m.committed (tx, m.reservations) (tx', reservations))
    (readable : ReadableRows tx'.rows) :
    Paired ids t u tx' { m.withTransaction t tx' with reservations := reservations }
      { d with current := some (u, mirrored ids tx') } where
  sound := paired.sound.ask paired.isOpen step
  isOpen := Memory.transaction?_withTransaction_self paired.isOpen
  only := by
    intro v isOpen
    by_contra other
    apply other
    apply paired.only v
    have same : (m.withTransaction t tx').transaction? v = m.transaction? v :=
      Memory.transaction?_withTransaction_ne other
    exact same ▸ isOpen
  history := step.history paired.history
  readable := readable
  current := rfl
  committedReadable := paired.committedReadable
  committed := paired.committed

/-- One request. -/
theorem answer (paired : Paired ids t u tx m d)
    (own : ∀ n, ids (.issued (.transaction t) n) = .issued (.transaction u) n) {q : Request}
    (possible : q.Readable) : AnsweredAlike ids t u q m d ∧
      ∃ tx', Paired ids t u tx' (Memory.answer (.transaction t) q m).2
        (Database.answer (.transaction u) (ids.request q) d).2 := by
  have matched := answer_matched own paired.unreserved paired.history.keeps paired.sound.intact
    (paired.sound.rows_intact paired.isOpen) paired.readable q possible
  have step : Memory.Transaction.Step t m.committed (tx, m.reservations)
      (Memory.Transaction.answer t m.committed q (tx, m.reservations)).2 :=
    Memory.Transaction.answer_step q _
  have inMemory := Memory.answer_of_open q paired.isOpen
  have inDatabase := Database.answer_of_open (ids.request q) paired.transaction?
  generalize Memory.Transaction.answer t m.committed q (tx, m.reservations) = done
    at matched step inMemory
  generalize Database.Transaction.answer u (ids.request q) (mirrored ids tx) = mirror
    at matched inDatabase
  obtain ⟨answer, tx', reservations⟩ := done
  obtain ⟨answerAlso, txAlso⟩ := mirror
  obtain ⟨alike, rfl, readable, unchanged⟩ := matched
  have still := paired.continued step readable
  have kept : ∀ e, answer = .error e →
      { m.withTransaction t tx' with reservations := reservations } = m ∧ tx' = tx := by
    intro e failed
    obtain ⟨rfl, rfl⟩ := Prod.mk.inj (unchanged e failed)
    exact ⟨Memory.withTransaction_self paired.sound.numbers paired.isOpen, rfl⟩
  refine ⟨⟨?_, ?_, ?_, ?_, ?_⟩, tx', ?_⟩
  · rw [inMemory, inDatabase]
    exact alike
  · rw [inMemory]
    exact fun e failed => (kept e failed).1
  · rw [inDatabase]
    intro e failed
    -- the answer of the database says that the store in memory has refused as well
    obtain ⟨e', failedAlso⟩ : ∃ e', answer = .error e' := by
      cases answer with
      | error e' => exact ⟨e', rfl⟩
      | ok row => simp [Alike, show answerAlso = .error e from failed, Except.toOption] at alike
    change { d with current := some (u, mirrored ids tx') } = d
    rw [(kept e' failedAlso).2, ← paired.current]
  · rw [inMemory]
    exact still.isOpen ▸ rfl
  · rw [inDatabase]
    exact still.transaction? ▸ rfl
  · rw [inMemory, inDatabase]
    exact still

/-- One request after another. -/
theorem asked (paired : Paired ids t u tx m d)
    (own : ∀ n, ids (.issued (.transaction t) n) = .issued (.transaction u) n)
    {requests : List Request} (possible : ∀ q ∈ requests, q.Readable) :
    ∃ tx', Paired ids t u tx' (m.asked t requests) (d.asked u (requests.map ids.request)) := by
  induction requests generalizing tx m d with
  | nil => exact ⟨tx, paired⟩
  | cons q rest ih =>
    obtain ⟨-, tx', still⟩ := paired.answer own (possible q (List.mem_cons_self ..))
    exact ih still fun q member => possible q (List.mem_cons_of_mem _ member)

/-- The end of the transactions. -/
theorem ended {r : Round} (paired : Paired ids r.inMemory r.inDatabase tx m d) :
    EndedAlike ids r m d ∧ Resting ids (m.ended r.inMemory r.commits).2
      (d.ended r.inDatabase r.commits).2 := by
  have closed : ∀ v, (m.without r.inMemory).transaction? v = none := by
    intro v
    apply Option.not_isSome_iff_eq_none.mp
    intro isOpen
    obtain ⟨other, isOpen⟩ := Option.isSome_iff_exists.mp isOpen
    obtain ⟨apart, before⟩ := Memory.transaction?_without_eq_some_iff.mp isOpen
    exact apart (paired.only v (before ▸ rfl))
  cases commits : r.commits with
  | true =>
    have inMemory := paired.history.commit_undisturbed paired.isOpen
    have inDatabase : d.commit r.inDatabase = (.ok (), ⟨(stored ids).tables tx.rows, none⟩) := by
      simp only [Database.commit, paired.transaction?]
      rfl
    have sound := paired.sound.commit r.inMemory
    refine ⟨⟨?_, ?_, ?_⟩, ?_⟩ <;>
      simp only [commits, Memory.ended, Database.ended, if_true, inMemory, inDatabase] at sound ⊢
    exact ⟨sound, closed, rfl, paired.readable, rfl⟩
  | false =>
    have inDatabase : d.rollback r.inDatabase = { d with current := none } := by
      simp only [Database.rollback, paired.transaction?]
    refine ⟨⟨?_, ?_, ?_⟩, ?_⟩ <;>
      simp only [commits, Memory.ended, Database.ended, if_false, inDatabase, Bool.false_eq_true]
    · exact paired.committed
    · exact ⟨paired.sound.without r.inMemory, closed, rfl, paired.committedReadable,
        paired.committed⟩

end Paired

/-- The beginning of the transactions. -/
theorem Resting.begin (resting : Resting ids m d) (fresh : t ∉ m.begun) :
    ∃ opened openedAlso, m.begin t = .ok opened ∧ d.begin u = .ok openedAlso ∧
      opened.begun = t :: m.begun ∧
      Paired ids t u (.start m.committed) opened openedAlso := by
  refine ⟨_, { d with current := some (u, ⟨d.committed, 0⟩) },
    Memory.begin_eq_ok_iff.mpr ⟨fresh, rfl⟩, by simp only [Database.begin, resting.current], rfl, ?_⟩
  exact {
    sound := resting.sound.begin fresh
    isOpen := by simp [Memory.transaction?]
    only := by
      intro v isOpen
      by_contra other
      have before := resting.closed v
      rw [Memory.transaction?] at before isOpen
      simp [List.lookup_cons, beq_false_of_ne other, before] at isOpen
    history := .start
    readable := resting.readable
    current := by rw [resting.committed]; rfl
    committedReadable := resting.readable
    committed := resting.committed }

end Round

/-! ## Numbers -/

namespace Memory

variable {m : Memory} {t : TxId}

theorem begun_asked (requests : List Request) : (m.asked t requests).begun = m.begun := by
  induction requests generalizing m with
  | nil => rfl
  | cons q rest ih =>
    apply ih.trans
    cases isOpen : m.transaction? t with
    | none => simp only [answer, isOpen]
    | some tx =>
      simp only [answer, isOpen]
      rfl

theorem begun_ended (commits : Bool) : (m.ended t commits).2.begun = m.begun := by
  cases commits with
  | false => rfl
  | true =>
    simp only [ended, if_true, commit]
    split
    · rfl
    · split <;> rfl

end Memory

/-- Exchanges the numbers of the transactions through which ids were issued. -/
def renumbered (numbers : Equiv.Perm TxId) : Renaming where
  toFun
    | .issued (.transaction t) n => .issued (.transaction (numbers t)) n
    | id => id
  invFun
    | .issued (.transaction t) n => .issued (.transaction (numbers.symm t)) n
    | id => id
  left_inv id := by
    rcases id with ⟨⟨⟩ | t, n⟩ | id <;> simp
  right_inv id := by
    rcases id with ⟨⟨⟩ | t, n⟩ | id <;> simp

/-- Different numbers can be exchanged for different numbers. -/
theorem exists_perm_of_nodup {numbers : List (TxId × TxId)}
    (first : (numbers.map Prod.fst).Nodup) (second : (numbers.map Prod.snd).Nodup) :
    ∃ e : Equiv.Perm TxId, ∀ p ∈ numbers, e p.1 = p.2 := by
  obtain ⟨e, exchanged, -⟩ := exists_perm_of_pairs first second
  exact ⟨e, exchanged⟩

/-! ## Runs -/

/-- Transactions that begin while none is open. -/
theorem Resting.playedAlike {ids : Renaming} {rounds : List Round} {m : Memory} {d : Database}
    (resting : Resting ids m d) (distinct : (rounds.map Round.inMemory).Nodup)
    (fresh : ∀ r ∈ rounds, r.inMemory ∉ m.begun)
    (own : ∀ r ∈ rounds, ∀ n,
      ids (.issued (.transaction r.inMemory) n) = .issued (.transaction r.inDatabase) n)
    (possible : ∀ r ∈ rounds, ∀ q ∈ r.requests, q.Readable) : PlayedAlike ids rounds m d := by
  induction rounds generalizing m d with
  | nil => trivial
  | cons r later ih =>
    obtain ⟨new, distinct⟩ := List.nodup_cons.mp distinct
    obtain ⟨freshHere, fresh⟩ := List.forall_mem_cons.mp fresh
    obtain ⟨ownHere, own⟩ := List.forall_mem_cons.mp own
    obtain ⟨possibleHere, possible⟩ := List.forall_mem_cons.mp possible
    obtain ⟨opened, openedAlso, begun, begunAlso, numbers, paired⟩ :=
      resting.begin (u := r.inDatabase) freshHere
    obtain ⟨tx, atEnd⟩ := paired.asked ownHere possibleHere
    obtain ⟨alike, resting⟩ := atEnd.ended
    refine ⟨opened, openedAlso, begun, begunAlso, ?_, alike, ih resting distinct ?_ own possible⟩
    · intro asked q rest split
      rw [split] at possibleHere
      obtain ⟨before, here⟩ := List.forall_mem_append.mp possibleHere
      obtain ⟨tx, soFar⟩ := paired.asked ownHere before
      exact (soFar.answer ownHere (here q (List.mem_cons_self ..))).1
    · intro other member used
      rw [Memory.begun_ended, Memory.begun_asked, numbers] at used
      rcases List.mem_cons.mp used with same | before
      · exact new (List.mem_map.mpr ⟨other, member, same⟩)
      · exact fresh other member before

/-- Whatever is asked for in transactions that do not overlap, both stores do the same. -/
theorem serial_alike (numbers : List (TxId × TxId)) (inMemory : (numbers.map Prod.fst).Nodup)
    (inDatabase : (numbers.map Prod.snd).Nodup) :
    ∃ ids : Renaming, (∀ id, ids (.foreign id) = .foreign id) ∧
      ∀ rounds : List Round, rounds.map Round.numbers = numbers →
        (∀ r ∈ rounds, ∀ q ∈ r.requests, q.Readable) →
          PlayedAlike ids rounds .empty .empty := by
  obtain ⟨e, exchanged⟩ := exists_perm_of_nodup inMemory inDatabase
  refine ⟨renumbered e, fun _ => rfl, ?_⟩
  rintro rounds rfl possible
  have distinct : (rounds.map Round.inMemory).Nodup := by
    simpa [Function.comp_def, Round.numbers] using inMemory
  apply (resting_empty _).playedAlike distinct (fun _ _ => List.not_mem_nil) _ possible
  intro r member n
  have here := exchanged r.numbers (List.mem_map_of_mem member)
  exact congrArg (fun v => RowId.issued (.transaction v) n) here

/-- A transaction that subscribes a project and brings a rule type into it, and one that asks for
what is refused, looks the rule type up and is given up. -/
def twoRounds : List Round :=
  [⟨0, 7, [.ensureBundle "stacklok" "healthcheck",
      .addSubscription ⟨1⟩ (.issued (.transaction 0) 0) "1.0.0",
      .putRuleType ⟨⟨1⟩, ⟨2⟩, some (.issued (.transaction 0) 1), .named "r1"⟩], true⟩,
    ⟨5, 3, [.addSubscription ⟨1⟩ (.foreign ⟨9⟩) "1.0.0", .findRuleType ⟨1⟩ "r1"], false⟩]

theorem serial_alike_twoRounds : ∃ ids : Renaming, PlayedAlike ids twoRounds .empty .empty := by
  obtain ⟨ids, -, alike⟩ :=
    serial_alike [(0, 7), (5, 3)] (by decide) (by decide)
  have possible : RuleType.ofJson (RuleType.named "r1").toJson = .ok (.named "r1") := by cbv
  refine ⟨ids, alike twoRounds rfl ?_⟩
  simp [twoRounds, Request.Readable, possible]

end RuleCatalog.Store
