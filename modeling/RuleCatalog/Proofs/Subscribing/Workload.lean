import Mathlib.Data.List.Induction
import RuleCatalog.Proofs.Store.Sound
import RuleCatalog.Proofs.Subscribing.Careful

/-! # Subscribing in transactions that overlap

Any number of transactions subscribe projects to bundles, request by request and in any order, while
the store itself is used for anything. `orderly_run` shows what each of these transactions is like
whenever one looks at it: its log came about by subscribing alone, on the tables that had been
committed when it began.
-/

namespace RuleCatalog.Subscribing

open Store Store.Memory

/-- Subscribing that is under way in a transaction. -/
structure Task where
  transaction : TxId
  rest : Script (Except Catalog.Error Unit)

/-- A store in memory, and all subscribing that is under way in its transactions. -/
structure Workload where
  memory : Memory
  tasks : List Task

namespace Workload

/-- What can happen next. -/
inductive Event where
  | begin (t : TxId)
  /-- An open transaction starts to subscribe a project to a bundle. -/
  | subscribe (t : TxId) (c : Catalog) (project : Project) (bundle : BundleId)
  /-- The next request of a task is answered. -/
  | proceed (task : Nat)
  /-- The store itself is asked for something. -/
  | direct (r : Request)
  | commit (t : TxId)
  | rollback (t : TxId)

/-- Answers the next request of a task. -/
def proceed (w : Workload) (task : Nat) : Workload :=
  match w.tasks[task]? with
  | some ⟨t, .ask r next⟩ =>
    ⟨w.memory.act (.ask (.transaction t) r),
      w.tasks.set task ⟨t, next (Memory.answer (.transaction t) r w.memory).1⟩⟩
  | _ => w

def step (w : Workload) : Event → Workload
  | .begin t => ⟨w.memory.act (.begin t), w.tasks⟩
  | .subscribe t c project bundle =>
    if (w.memory.transaction? t).isSome then
      ⟨w.memory, w.tasks ++ [⟨t, c.subscribe project bundle⟩]⟩
    else w
  | .proceed task => w.proceed task
  | .direct r => ⟨w.memory.act (.ask .direct r), w.tasks⟩
  | .commit t => ⟨w.memory.act (.commit t), w.tasks⟩
  | .rollback t => ⟨w.memory.act (.rollback t), w.tasks⟩

/-- What has become of an empty store after one event after another. -/
def run (events : List Event) : Workload := events.foldl step ⟨.empty, []⟩

theorem run_concat (events : List Event) (e : Event) : run (events ++ [e]) = (run events).step e :=
  List.foldl_concat ..

/-- When a transaction began, and on which tables. -/
def Began (events : List Event) (t : TxId) (start : Rows) : Prop :=
  ∃ before after, events = before ++ .begin t :: after ∧ t ∉ (run before).memory.begun ∧
    (run before).memory.committed = start

/-! ## Transactions under way -/

/-- An open transaction that began on the tables `start`, and all that is going on in it. -/
structure Supervised (w : Workload) (t : TxId) (tx : Transaction) (start : Rows) : Prop where
  intact : start.Intact
  kept : start.Keeps w.memory.committed
  history : Transaction.History t start tx
  guarded : Guarded start tx.log
  careful : ∀ k ∈ w.tasks, k.transaction = t → Careful start k.rest tx.log

/-- What happens to a task is nothing to the other transactions. -/
private theorem Supervised.elsewhere {w : Workload} {m : Memory} {t u : TxId} {other : Transaction}
    {start : Rows} {task : Nat} {rest : Script (Except Catalog.Error Unit)}
    (supervised : Supervised w u other start) (apart : u ≠ t)
    (same : m.committed = w.memory.committed) :
    Supervised ⟨m, w.tasks.set task ⟨t, rest⟩⟩ u other start where
  intact := supervised.intact
  kept := same ▸ supervised.kept
  history := supervised.history
  guarded := supervised.guarded
  careful k member own := by
    rcases List.mem_or_eq_of_mem_set member with old | rfl
    · exact supervised.careful k old own
    · exact (apart own.symm).elim

/-- What holds after every event: `began` tells on which tables transactions began. -/
structure Orderly (began : TxId → Rows → Prop) (w : Workload) : Prop where
  sound : w.memory.Sound
  known : ∀ k ∈ w.tasks, k.transaction ∈ w.memory.begun
  supervised : ∀ t tx, w.memory.transaction? t = some tx →
    ∃ start, began t start ∧ Supervised w t tx start

namespace Orderly

variable {began began' : TxId → Rows → Prop} {w : Workload} {m : Memory} {t : TxId}

theorem mono (orderly : Orderly began w) (still : ∀ t start, began t start → began' t start) :
    Orderly began' w where
  sound := orderly.sound
  known := orderly.known
  supervised t tx isOpen := by
    obtain ⟨start, isStart, supervised⟩ := orderly.supervised t tx isOpen
    exact ⟨start, still t start isStart, supervised⟩

/-- Something happens that leaves all transactions as they are, except for ending some. -/
private theorem ends (orderly : Orderly began w) (sound : m.Sound)
    (kept : w.memory.committed.Keeps m.committed) (begun : m.begun = w.memory.begun)
    (still : ∀ t tx, m.transaction? t = some tx → w.memory.transaction? t = some tx) :
    Orderly began ⟨m, w.tasks⟩ where
  sound := sound
  known k member := begun ▸ orderly.known k member
  supervised t tx isOpen := by
    obtain ⟨start, isStart, supervised⟩ := orderly.supervised t tx (still t tx isOpen)
    exact ⟨start, isStart, { supervised with kept := supervised.kept.trans kept }⟩

theorem direct (orderly : Orderly began w) (r : Request) : Orderly began (w.step (.direct r)) := by
  have step := answerDirect_step r w.memory
  apply orderly.ends (orderly.sound.act (.ask .direct r)) step.keeps step.begun
  intro t tx isOpen
  exact (congrArg (List.lookup t) step.transactions).symm.trans isOpen

theorem rollback (orderly : Orderly began w) (t : TxId) : Orderly began (w.step (.rollback t)) :=
  orderly.ends (orderly.sound.without t) (.refl _) rfl fun _ _ isOpen =>
    (transaction?_without_eq_some_iff.mp isOpen).2

theorem commit (orderly : Orderly began w) (t : TxId) : Orderly began (w.step (.commit t)) := by
  change Orderly began ⟨(w.memory.commit t).2, w.tasks⟩
  cases isOpen : w.memory.transaction? t with
  | none => simpa only [Memory.commit, isOpen] using orderly
  | some tx =>
    have still : ∀ u other, (w.memory.without t).transaction? u = some other →
        w.memory.transaction? u = some other := fun _ _ stillOpen =>
      (transaction?_without_eq_some_iff.mp stillOpen).2
    have sound := orderly.sound.commit t
    rcases orderly.sound.commit_cases isOpen with ⟨-, ended⟩ | ⟨-, rows, _, merged, ended⟩
    · rw [ended] at sound ⊢
      exact orderly.ends sound (.refl _) rfl still
    · rw [ended] at sound ⊢
      exact orderly.ends sound merged.keeps rfl still

theorem subscribe (orderly : Orderly began w) (t : TxId) (c : Catalog) (project : Project)
    (bundle : BundleId) : Orderly began (w.step (.subscribe t c project bundle)) := by
  simp only [step]
  split
  · rename_i isOpen
    obtain ⟨tx, isOpen⟩ := Option.isSome_iff_exists.mp isOpen
    constructor
    · exact orderly.sound
    · intro k member
      rcases List.mem_append.mp member with old | new
      · exact orderly.known k old
      · rw [List.mem_singleton.mp new]
        exact orderly.sound.begun_of_open isOpen
    · intro u other otherOpen
      obtain ⟨start, isStart, supervised⟩ := orderly.supervised u other otherOpen
      refine ⟨start, isStart, { supervised with careful := ?_ }⟩
      intro k member own
      rcases List.mem_append.mp member with old | new
      · exact supervised.careful k old own
      · rw [List.mem_singleton.mp new]
        exact careful_catalog
  · exact orderly

theorem begin (orderly : Orderly began w) (t : TxId)
    (starts : t ∉ w.memory.begun → began t w.memory.committed) :
    Orderly began (w.step (.begin t)) := by
  change Orderly began ⟨w.memory.act (.begin t), w.tasks⟩
  have sound := orderly.sound.act (.begin t)
  cases opened : w.memory.begin t with
  | error e =>
    simp only [act, opened] at sound ⊢
    exact orderly
  | ok m =>
    obtain ⟨fresh, rfl⟩ := begin_eq_ok_iff.mp opened
    simp only [act, opened] at sound ⊢
    constructor
    · exact sound
    · intro k member
      exact List.mem_cons_of_mem _ (orderly.known k member)
    · intro u other isOpen
      by_cases same : u = t
      · subst same
        obtain rfl : Transaction.start w.memory.committed = other := by
          simpa [transaction?] using isOpen
        refine ⟨_, starts fresh, orderly.sound.intact, .refl _, .start, .nil, ?_⟩
        intro k member own
        exact (fresh (own ▸ orderly.known k member)).elim
      · obtain ⟨start, isStart, supervised⟩ := orderly.supervised u other
          (by simpa [transaction?, List.lookup_cons, beq_false_of_ne same] using isOpen)
        exact ⟨start, isStart, { supervised with }⟩

private theorem known_set (orderly : Orderly began w) {task : Nat}
    {rest : Script (Except Catalog.Error Unit)} (known : t ∈ w.memory.begun) :
    ∀ k ∈ w.tasks.set task ⟨t, rest⟩, k.transaction ∈ w.memory.begun := by
  intro k member
  rcases List.mem_or_eq_of_mem_set member with old | rfl
  · exact orderly.known k old
  · exact known

/-- What a task does next is permitted, and the other tasks of its transaction bear it. -/
theorem proceed (orderly : Orderly began w) (task : Nat) :
    Orderly began (w.step (.proceed task)) := by
  change Orderly began (w.proceed task)
  unfold Workload.proceed
  split
  next t r next found =>
    have member : ⟨t, .ask r next⟩ ∈ w.tasks := List.mem_of_getElem? found
    have known : t ∈ w.memory.begun := orderly.known _ member
    have sound := orderly.sound.act (.ask (.transaction t) r)
    cases isOpen : w.memory.transaction? t with
    | none =>
      simp only [act, Memory.answer, isOpen] at sound ⊢
      constructor
      · exact sound
      · exact orderly.known_set known
      · intro u other otherOpen
        have apart : u ≠ t := by
          rintro rfl
          exact Option.some_ne_none other (otherOpen.symm.trans isOpen)
        obtain ⟨start, isStart, supervised⟩ := orderly.supervised u other otherOpen
        exact ⟨start, isStart, supervised.elsewhere apart rfl⟩
    | some tx =>
      obtain ⟨start, isStart, supervised⟩ := orderly.supervised t tx isOpen
      have step : Transaction.Step t w.memory.committed (tx, w.memory.reservations) _ :=
        Transaction.answer_step r (tx, w.memory.reservations)
      obtain ⟨permitted, goesOn⟩ := supervised.careful _ member rfl
      have below := (orderly.sound.unissued_of_open isOpen).of_keeps supervised.kept
      obtain ⟨grown, guarded, tells⟩ := answer_guarded w.memory.committed w.memory.reservations
        supervised.history supervised.intact below supervised.guarded permitted
      simp only [act, Memory.answer, isOpen] at sound ⊢
      generalize Transaction.answer t w.memory.committed r (tx, w.memory.reservations) = result
        at sound step grown guarded tells
      obtain ⟨answer, tx', reservations⟩ := result
      constructor
      · exact sound
      · exact orderly.known_set known
      · intro u other otherOpen
        by_cases same : u = t
        · subst same
          obtain rfl : tx' = other :=
            Option.some.inj ((transaction?_withTransaction_self isOpen).symm.trans otherOpen)
          refine ⟨start, isStart, supervised.intact, supervised.kept,
            step.history supervised.history, guarded, ?_⟩
          intro k present own
          rcases List.mem_or_eq_of_mem_set present with old | rfl
          · exact (supervised.careful k old own).mono grown
          · exact goesOn answer _ grown tells
        · obtain ⟨begin, isBegin, others⟩ := orderly.supervised u other
            ((transaction?_withTransaction_ne same).symm.trans otherOpen)
          exact ⟨begin, isBegin, others.elsewhere same rfl⟩
  next => exact orderly

theorem step (orderly : Orderly began w) (e : Event)
    (starts : ∀ t, e = .begin t → t ∉ w.memory.begun → began t w.memory.committed) :
    Orderly began (w.step e) := by
  cases e with
  | begin t => exact orderly.begin t (starts t rfl)
  | subscribe t c project bundle => exact orderly.subscribe t c project bundle
  | proceed task => exact orderly.proceed task
  | direct r => exact orderly.direct r
  | commit t => exact orderly.commit t
  | rollback t => exact orderly.rollback t

end Orderly

theorem orderly_run (events : List Event) : Orderly (Began events) (run events) := by
  induction events using List.reverseRecOn with
  | nil => exact ⟨sound_empty, by simp [run], by simp [run, empty, transaction?]⟩
  | append_singleton events e ih =>
    have still : ∀ t start, Began events t start → Began (events ++ [e]) t start := by
      rintro t start ⟨before, after, rfl, fresh, isStart⟩
      exact ⟨before, after ++ [e], by simp, fresh, isStart⟩
    rw [run_concat]
    apply (ih.mono still).step e
    rintro t rfl fresh
    exact ⟨events, [], rfl, fresh, rfl⟩

end Workload

end RuleCatalog.Subscribing
