import Mathlib.Data.List.Induction
import RuleCatalog.Proofs.Subscribing.Confined

/-! # Installed content stays linked

A store checks that the subscription of content exists, but neither whose it is nor what a profile
names. That is for the operations to check, against the tables that their handle sees, although a
commit writes to other ones. `linked_run` shows that nothing is lost on the way: however operations
on transactions and on the store itself overlap, and wherever they fail, all content belongs to a
subscription of its project, and the rule types that a profile names are there.
-/

namespace RuleCatalog.Subscribing

open Store Store.Memory

/-! ## Linked tables -/

/-- A profile as it should be. -/
structure LinkedProfile (rows : Rows) (p : ContentRow Profile) : Prop where
  owned : Owned rows p.project p.subscription
  named : Text.isBlankText p.name = false
  rules : p.definition.rules ≠ []
  known : Known rows p.project p.definition

/-- Tables with all content linked. -/
structure Linked (rows : Rows) : Prop where
  ruleTypes : ∀ r ∈ rows.ruleTypes, Owned rows r.project r.subscription
  profiles : ∀ p ∈ rows.profiles, LinkedProfile rows p

theorem linked_empty : Linked .empty := by constructor <;> simp [Tables.empty]

theorem checkProfile_eq_ok_iff {p : Profile} :
    Service.checkProfile p = .ok () ↔ Text.isBlankText p.name = false ∧ p.rules ≠ [] := by
  cases blank : Text.isBlankText p.name <;> simp [Service.checkProfile, blank]

/-- What content may refer to in the first tables, it may refer to in the second ones. -/
structure Carries (rows rows' : Rows) : Prop where
  owned : ∀ {project subscription}, Owned rows project subscription →
    Owned rows' project subscription
  places : rows.ruleTypes.map ContentRow.place ⊆ rows'.ruleTypes.map ContentRow.place

namespace Carries

variable {rows rows' : Rows}

theorem of_keeps (kept : rows.Keeps rows') : Carries rows rows' :=
  ⟨fun owned => owned.mono kept, places_subset kept⟩

theorem profile (carries : Carries rows rows') {p : ContentRow Profile}
    (linked : LinkedProfile rows p) : LinkedProfile rows' p :=
  { linked with
    owned := carries.owned linked.owned
    known := fun rule member => carries.places (linked.known rule member) }

/-- A commit leads a subscription to another bundle and puts a rule type in the place of another
one, but projects, ids of subscriptions and names are as the transaction has seen them. -/
theorem of_merged {t : TxId} {start base : Rows} {tx : Transaction} {redirection : Redirection}
    (merged : Merged base tx rows redirection) (history : Transaction.History t start tx)
    (intact : start.Intact) (kept : start.Keeps base) : Carries tx.rows rows where
  owned := by
    rintro project subscription ⟨s, member, isId, own⟩
    rcases List.mem_append.mp (history.subscriptions ▸ member) with old | staged
    · exact ⟨s, (kept.trans merged.keeps).subscriptions.subset old, isId, own⟩
    · refine ⟨redirection.lead s, ?_, isId, own⟩
      rw [merged.subscriptions]
      exact List.mem_append_right _ (List.mem_map_of_mem staged)
  places := by
    intro place member
    obtain ⟨r, present, rfl⟩ := List.mem_map.mp member
    rcases (history.mem_ruleTypes intact.ruleTypePlaces).mp present with ⟨old, -⟩ | last
    · exact places_subset (kept.trans merged.keeps) (List.mem_map_of_mem old)
    · exact List.mem_map.mpr
        ⟨landed base r, (merged.ruleTypes _).mpr (.inr ⟨r, last, rfl⟩), rfl⟩

end Carries

namespace Linked

variable {rows rows' : Rows}

/-- A request of an operation keeps content linked. -/
theorem effect (linked : Linked rows) (intact : rows.Intact) {project : Uuid} {r : Request}
    (within : Within project rows r) (effect : Effect r rows rows') : Linked rows' := by
  have carries := Carries.of_keeps effect.keeps
  cases effect with
  | same => exact linked
  | bundle row =>
    exact ⟨linked.ruleTypes, fun p member => carries.profile (linked.profiles p member)⟩
  | subscription id added =>
    obtain ⟨-, -, rfl⟩ := Tables.addSubscription_eq_ok_iff.mp added
    exact ⟨fun r member => carries.owned (linked.ruleTypes r member),
      fun p member => carries.profile (linked.profiles p member)⟩
  | ruleType id put =>
    obtain ⟨-, -, rfl⟩ := Tables.putRuleType_eq_ok_iff.mp put
    refine ⟨fun r member => ?_, fun p member => carries.profile (linked.profiles p member)⟩
    rcases (Tables.mem_putRow intact.ruleTypePlaces).mp member with ⟨old, -⟩ | rfl
    · exact linked.ruleTypes r old
    · rw [Tables.putRow_fst]
      obtain ⟨own, owned⟩ := within
      exact own ▸ owned
  | profile id added =>
    obtain ⟨-, -, rfl⟩ := Tables.addProfile_eq_ok_iff.mp added
    refine ⟨linked.ruleTypes, fun p member => ?_⟩
    rcases List.mem_append.mp member with old | new
    · exact carries.profile (linked.profiles p old)
    · obtain rfl := List.mem_singleton.mp new
      obtain ⟨rfl, owned, checked, known⟩ := within
      obtain ⟨named, rules⟩ := checkProfile_eq_ok_iff.mp checked
      exact ⟨owned, named, rules, known⟩

/-- A commit keeps content linked. -/
theorem merged {t : TxId} {start base : Rows} {tx : Transaction} {redirection : Redirection}
    (linkedBase : Linked base) (linked : Linked tx.rows) (merged : Merged base tx rows redirection)
    (history : Transaction.History t start tx) (intact : start.Intact) (kept : start.Keeps base) :
    Linked rows := by
  have fromBase := Carries.of_keeps merged.keeps
  have fromSeen := Carries.of_merged merged history intact kept
  constructor
  · intro r member
    rcases (merged.ruleTypes r).mp member with ⟨old, -⟩ | ⟨w, last, rfl⟩
    · exact fromBase.owned (linkedBase.ruleTypes r old)
    · -- what lands is what the transaction saw last, whatever it replaces
      have seen := (history.mem_ruleTypes intact.ruleTypePlaces).mpr
        (.inr ((place_of_lastWrite last).symm ▸ last))
      exact fromSeen.owned (linked.ruleTypes w seen)
  · intro p member
    rcases List.mem_append.mp (merged.profiles ▸ member) with old | added
    · exact fromBase.profile (linkedBase.profiles p old)
    · exact fromSeen.profile
        (linked.profiles p (history.profiles ▸ List.mem_append_right _ added))

end Linked

/-- Whatever handle is used, the content that it sees is linked. -/
def AllLinked (m : Memory) : Prop := ∀ h rows, m.view? h = some rows → Linked rows

theorem AllLinked.act {m : Memory} (linked : AllLinked m) (sound : m.Sound) {a : Action}
    (within : ∀ h r, a = .ask h r →
      ∃ project, ∀ rows, m.view? h = some rows → Within project rows r) :
    AllLinked (m.act a) := by
  intro h rows' view'
  cases a with
  | begin t =>
    rcases view?_of_begin view' with view | ⟨-, -, rfl⟩
    · exact linked h rows' view
    · exact linked .direct _ rfl
  | ask asked r =>
    obtain ⟨project, within⟩ := within asked r rfl
    by_cases same : h = asked
    · subst same
      cases view : m.view? h with
      | none =>
        have closed : (m.act (.ask h r)).view? h = none :=
          (congrArg (fun result => result.2.view? h) (answer_of_closed view r)).trans view
        exact (Option.some_ne_none rows' (view'.symm.trans closed)).elim
      | some rows =>
        obtain ⟨after, viewAfter, effect, -⟩ := answer_effect view r
        obtain rfl : after = rows' := Option.some.inj (viewAfter.symm.trans view')
        exact (linked h rows view).effect (sound.view_intact view) (within rows view) effect
    · exact linked h rows' (view?_answer_ne same ▸ view')
  | commit t =>
    rcases sound.view?_of_commit view' with view | ⟨-, tx, _, isOpen, merged⟩
    · exact linked h rows' view
    · obtain ⟨start, intact, kept, history⟩ := sound.histories t tx isOpen
      have seen : m.view? (.transaction t) = some tx.rows :=
        Option.map_eq_some_iff.mpr ⟨tx, isOpen, rfl⟩
      exact .merged (linked .direct _ rfl) (linked _ _ seen) merged history intact kept
  | rollback t => exact linked h rows' (view?_of_without view')

/-! ## Operations that overlap -/

/-- An operation that is under way. -/
structure Job where
  handle : Handle
  rest : Script (Except Catalog.Error Unit)

/-- A store in memory, and all operations that are under way. -/
structure Traffic where
  memory : Memory
  jobs : List Job

namespace Traffic

/-- What can happen next. An operation that is given up is one that does not proceed any more. -/
inductive Event where
  | begin (t : TxId)
  | commit (t : TxId)
  | rollback (t : TxId)
  /-- An operation starts through the store itself or through an open transaction. -/
  | start (h : Handle) (c : Catalog) (o : Operation)
  /-- The next request of an operation is answered. -/
  | proceed (job : Nat)
  /-- The next request of an operation fails before it reaches the store. -/
  | fail (job : Nat) (e : Store.Error)

def step (w : Traffic) : Event → Traffic
  | .begin t => ⟨w.memory.act (.begin t), w.jobs⟩
  | .commit t => ⟨w.memory.act (.commit t), w.jobs⟩
  | .rollback t => ⟨w.memory.act (.rollback t), w.jobs⟩
  | .start h c o =>
    if (w.memory.view? h).isSome then ⟨w.memory, w.jobs ++ [⟨h, o.script c⟩]⟩ else w
  | .proceed job =>
    match w.jobs[job]? with
    | some ⟨h, .ask r next⟩ =>
      ⟨w.memory.act (.ask h r), w.jobs.set job ⟨h, next (Memory.answer h r w.memory).1⟩⟩
    | _ => w
  | .fail job e =>
    match w.jobs[job]? with
    | some ⟨h, .ask _ next⟩ => ⟨w.memory, w.jobs.set job ⟨h, next (.error e)⟩⟩
    | _ => w

/-- What has become of an empty store after one event after another. -/
def run (events : List Event) : Traffic := events.foldl step ⟨.empty, []⟩

/-- A job that stays within some project, on a handle that has been there. -/
structure Behaves (m : Memory) (k : Job) : Prop where
  begun : ∀ t, k.handle = .transaction t → t ∈ m.begun
  confined : ∃ project, ∀ rows, m.view? k.handle = some rows → Confined project k.rest rows

/-- What holds after every event. -/
structure Regular (w : Traffic) : Prop where
  sound : w.memory.Sound
  linked : AllLinked w.memory
  behaves : ∀ k ∈ w.jobs, Behaves w.memory k

/-- Whatever is done to the store, a job goes on within its project. -/
theorem Behaves.act {m : Memory} {k : Job} (behaves : Behaves m k) (sound : m.Sound) (a : Action) :
    Behaves (m.act a) k where
  begun t isHandle := begun_act m a (behaves.begun t isHandle)
  confined := by
    obtain ⟨project, confined⟩ := behaves.confined
    refine ⟨project, fun rows' view' => ?_⟩
    rcases sound.view_act view' with ⟨rows, view, kept⟩ | ⟨t, isHandle, fresh, -⟩
    · exact (confined rows view).mono kept
    · exact (fresh (behaves.begun t isHandle)).elim

namespace Regular

variable {w : Traffic}

/-- Something is done to the store, which no job has asked unless within its project. -/
theorem act (regular : Regular w) {a : Action} (within : ∀ h r, a = .ask h r →
    ∃ project, ∀ rows, w.memory.view? h = some rows → Within project rows r) :
    Regular ⟨w.memory.act a, w.jobs⟩ where
  sound := regular.sound.act a
  linked := regular.linked.act regular.sound within
  behaves k member := (regular.behaves k member).act regular.sound a

/-- A job goes on. -/
theorem set (regular : Regular w) (job : Nat) {k : Job} (behaves : Behaves w.memory k) :
    Regular ⟨w.memory, w.jobs.set job k⟩ where
  sound := regular.sound
  linked := regular.linked
  behaves other member := by
    rcases List.mem_or_eq_of_mem_set member with old | rfl
    · exact regular.behaves other old
    · exact behaves

theorem start (regular : Regular w) (h : Handle) (c : Catalog) (o : Operation) :
    Regular (w.step (.start h c o)) := by
  simp only [step]
  split
  · rename_i usable
    refine ⟨regular.sound, regular.linked, fun k member => ?_⟩
    rcases List.mem_append.mp member with old | new
    · exact regular.behaves k old
    · obtain rfl := List.mem_singleton.mp new
      refine ⟨?_, o.project.id, fun rows _ => o.confined c rows⟩
      rintro t rfl
      obtain ⟨tx, isOpen⟩ := Option.isSome_iff_exists.mp (Option.isSome_map ▸ usable)
      exact regular.sound.begun_of_open isOpen
  · exact regular

theorem proceed (regular : Regular w) (job : Nat) : Regular (w.step (.proceed job)) := by
  simp only [step]
  split
  next h r next found =>
    have behaves := regular.behaves _ (List.mem_of_getElem? found)
    obtain ⟨project, confined⟩ := behaves.confined
    -- first the store answers, then the job goes on with the answer
    have after : Regular ⟨w.memory.act (.ask h r), w.jobs⟩ := regular.act fun _ _ same => by
      cases same
      exact ⟨project, fun rows view => (confined rows view).1⟩
    apply after.set job
    exact ⟨fun t isHandle => begun_act _ _ (behaves.begun t isHandle), project,
      Confined.proceed confined⟩
  next => exact regular

theorem fail (regular : Regular w) (job : Nat) (e : Store.Error) :
    Regular (w.step (.fail job e)) := by
  simp only [step]
  split
  next h r next found =>
    have behaves := regular.behaves _ (List.mem_of_getElem? found)
    obtain ⟨project, confined⟩ := behaves.confined
    apply regular.set job
    -- an error shows nothing, so the job has to be ready for it
    refine ⟨behaves.begun, project, fun rows view => ?_⟩
    exact (confined rows view).2 (.error e) rows (.refl rows) (shows_error rows r e)
  next => exact regular

theorem step (regular : Regular w) (e : Event) : Regular (w.step e) := by
  cases e with
  | begin t | commit t | rollback t => exact regular.act (by simp)
  | start h c o => exact regular.start h c o
  | proceed job => exact regular.proceed job
  | fail job e => exact regular.fail job e

end Regular

theorem regular_run (events : List Event) : Regular (run events) := by
  induction events using List.reverseRecOn with
  | nil =>
    refine ⟨sound_empty, ?_, by simp [run]⟩
    rintro (_ | t) rows view
    · cases view
      exact linked_empty
    · simp [run, view?, empty, transaction?] at view
  | append_singleton events e ih =>
    rw [run, List.foldl_concat]
    exact ih.step e

/-- Whatever operations run and however they overlap and fail, content stays linked: in the
committed tables and in what every open transaction sees. -/
theorem linked_run (events : List Event) :
    Linked (run events).memory.committed ∧
      ∀ t tx, (run events).memory.transaction? t = some tx → Linked tx.rows := by
  have linked := (regular_run events).linked
  constructor
  · exact linked .direct _ rfl
  · intro t tx isOpen
    exact linked (.transaction t) _ (Option.map_eq_some_iff.mpr ⟨tx, isOpen, rfl⟩)

end Traffic

end RuleCatalog.Subscribing
