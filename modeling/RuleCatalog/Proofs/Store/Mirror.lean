import RuleCatalog.Proofs.Store.Sound
import RuleCatalog.Proofs.Store.Statements
import RuleCatalog.Proofs.Store.Translation
import RuleCatalog.Proofs.Store.Undisturbed

/-! # Transactions on both sides

A transaction of a database goes along with a transaction in memory as long as it has the
translation of its rows: every request that the one answers is answered by the other with the same
row but for its ids, and what the one refuses the other refuses. In memory nothing else must be
going on at the time, as it may stand in the way of a subscription.
-/

namespace RuleCatalog.Store

open Memory (Sound keyOf keys hasKey)

/-! ## Asking a transaction -/

/-- Definitions as a database keeps them. -/
def stored (ids : Renaming) : Translation RuleType Profile String String :=
  ⟨ids, RuleType.toJson, Profile.toJson⟩

/-- A definition in the request can be read again from the text under which it is stored. -/
def Request.Readable : Request → Prop
  | .putRuleType c => RuleType.ofJson c.definition.toJson = .ok c.definition
  | .addProfile c => Profile.ofJson c.definition.toJson = .ok c.definition
  | _ => True

/-- Rows whose definitions can be read again. -/
structure ReadableRows (rows : Memory.Rows) : Prop where
  ruleTypes : ∀ r ∈ rows.ruleTypes, RuleType.ofJson r.definition.toJson = .ok r.definition
  profiles : ∀ p ∈ rows.profiles, Profile.ofJson p.definition.toJson = .ok p.definition

theorem ReadableRows.ruleType? {rows : Memory.Rows} (readable : ReadableRows rows) {project : Uuid}
    {name : String} : ∀ r ∈ rows.ruleType? project name,
      RuleType.ofJson r.definition.toJson = .ok r.definition :=
  fun r found => readable.ruleTypes r (List.mem_of_find?_eq_some found)

theorem ReadableRows.profile? {rows : Memory.Rows} (readable : ReadableRows rows) {project : Uuid}
    {name : String} : ∀ p ∈ rows.profile? project name,
      Profile.ofJson p.definition.toJson = .ok p.definition :=
  fun p found => readable.profiles p (List.mem_of_find?_eq_some found)

/-- A transaction in memory as the database has it. -/
def mirrored (ids : Renaming) (tx : Memory.Transaction) : Database.Transaction :=
  ⟨(stored ids).tables tx.rows, tx.issued⟩

theorem mirrored_intact {ids : Renaming} {tx : Memory.Transaction} (intact : tx.rows.Intact) :
    (mirrored ids tx).rows.Intact :=
  (stored ids).intact_tables intact

/-- Two answers are alike: the same row but for its ids, or errors. -/
def Alike (ids : Renaming) (q : Request) (first : Except Error q.Answer)
    (second : Except Error (ids.request q).Answer) : Prop :=
  second.toOption = first.toOption.map (ids.answer q)

/-- What a transaction in memory has done with a request, the database has done as well. -/
structure Matched (ids : Renaming) (q : Request)
    (before : Memory.Transaction × Memory.Reservations)
    (done : Except Error q.Answer × Memory.Transaction × Memory.Reservations)
    (mirror : Except Error (ids.request q).Answer × Database.Transaction) : Prop where
  alike : Alike ids q done.1 mirror.1
  state : mirror.2 = mirrored ids done.2.1
  readable : ReadableRows done.2.1.rows
  /-- A request that fails changes nothing. -/
  unchanged : ∀ e, done.1 = .error e → done.2 = before

section Answer

variable {ids : Renaming} {t u : TxId} {tx : Memory.Transaction} {committed : Memory.Rows}
  {reservations : Memory.Reservations}

/-- A transaction that is the only one may add every subscription that its rows allow. -/
theorem addSubscription_alone (unreserved : ∀ key, reservations.heldByOther key t = false)
    (kept : committed.Keeps tx.rows) (intactCommitted : committed.Intact) (intact : tx.rows.Intact)
    (row : Subscription) :
    (Memory.Transaction.addSubscription t committed row (tx, reservations)).1.toOption =
      (tx.rows.addSubscription Memory.schema row).toOption.map fun _ => row := by
  cases added : tx.rows.addSubscription Memory.schema row with
  | error e =>
    rcases Memory.Transaction.addSubscription_cases t committed row tx reservations with
      ⟨e', refused⟩ | ⟨key, rows, -, -, -, success, -⟩
    · rw [refused]
      rfl
    · cases added.symm.trans success
  | ok rows =>
    obtain ⟨known, free, -⟩ := Tables.addSubscription_eq_ok_iff.mp added
    obtain ⟨key, keyed⟩ := Memory.keyOf_isSome known
    have uncommitted : hasKey committed key = false := by
      apply Bool.eq_false_iff.mpr
      intro taken
      obtain ⟨s, present, same⟩ := List.mem_map.mp ((Memory.hasKey_iff intactCommitted).mp taken)
      apply free
      apply (Memory.mem_keys_iff intact keyed).mp
      exact List.mem_map.mpr
        ⟨s, kept.subscriptions.subset present, Memory.keyOf_mono kept.bundles same⟩
    simp only [Memory.Transaction.addSubscription, keyed, unreserved, uncommitted, added]
    rfl

/-- A row that is found in memory is found in the database, which reads its definition again. -/
theorem found_matched {α : Type} {read : String → Except Json.Error α} {write : α → String}
    {row : Option (ContentRow α)}
    (readable : ∀ r ∈ row, read (write r.definition) = .ok r.definition) :
    (Database.Transaction.found read (row.map (ids.written write))).toOption =
      (Memory.Transaction.found row).toOption.map ids.content := by
  cases row with
  | none => rfl
  | some r =>
    have again : read (ids.written write r).definition = .ok r.definition := readable r rfl
    simp only [Option.map_some, Database.Transaction.found, again]
    rfl

/-- A request that only looks changes nothing. -/
private theorem Matched.look {q : Request} (readable : ReadableRows tx.rows)
    {first : Except Error q.Answer} {second : Except Error (ids.request q).Answer}
    (alike : Alike ids q first second) :
    Matched ids q (tx, reservations) (first, tx, reservations) (second, mirrored ids tx) :=
  ⟨alike, rfl, readable, fun _ _ => rfl⟩

/-- A request that fails on both sides changes nothing. -/
private theorem Matched.refused {q : Request} (readable : ReadableRows tx.rows) (e e' : Error) :
    Matched ids q (tx, reservations) (.error e, tx, reservations) (.error e', mirrored ids tx) :=
  .look readable rfl

/-- Two computations of which one succeeds if the other does. -/
private theorem succeed_together {α β ε ε' : Type} {x : Except ε α} {y : Except ε' β} {f : α → β}
    (both : y.toOption = x.toOption.map f) :
    (∃ e e', x = .error e ∧ y = .error e') ∨ ∃ a, x = .ok a ∧ y = .ok (f a) := by
  cases x with
  | error e =>
    cases y with
    | error e' => exact .inl ⟨e, e', rfl, rfl⟩
    | ok b => cases both
  | ok a =>
    cases y with
    | error e' => cases both
    | ok b => exact .inr ⟨a, rfl, congrArg _ (Option.some_inj.mp both)⟩

theorem addSubscription_matched
    (own : ∀ n, ids (.issued (.transaction t) n) = .issued (.transaction u) n)
    (unreserved : ∀ key, reservations.heldByOther key t = false) (kept : committed.Keeps tx.rows)
    (intactCommitted : committed.Intact) (intact : tx.rows.Intact) (readable : ReadableRows tx.rows)
    (project : Uuid) (bundle : RowId) (version : String) :
    Matched ids (.addSubscription project bundle version) (tx, reservations)
      (Memory.Transaction.answer t committed (.addSubscription project bundle version)
        (tx, reservations))
      (Database.Transaction.answer u (.addSubscription project (ids bundle) version)
        (mirrored ids tx)) := by
  have next : (mirrored ids tx).nextId u = ids (tx.nextId t) := (own tx.issued).symm
  let row : Subscription := ⟨tx.nextId t, project, bundle, version⟩
  have both := (stored ids).addSubscription_tables (t := tx.rows) Memory.schema
    Database.schema row
  have alone := addSubscription_alone unreserved kept intactCommitted intact row
  rw [Database.Transaction.answer_addSubscription (mirrored_intact intact)]
  simp only [Memory.Transaction.answer, next]
  change ((mirrored ids tx).rows.addSubscription Database.schema
    ⟨ids (tx.nextId t), project, ids bundle, version⟩).toOption = _ at both
  change Matched ids (.addSubscription project bundle version) (tx, reservations)
    (Memory.Transaction.addSubscription t committed row (tx, reservations)) _
  rcases succeed_together both with ⟨e, e', added, there⟩ | ⟨rows, added, there⟩
  · rcases Memory.Transaction.addSubscription_cases t committed row tx reservations with
      ⟨e, refused⟩ | ⟨key, rows, -, -, -, success, -⟩
    · rw [refused, there]
      exact .refused readable _ _
    · cases added.symm.trans success
  · rcases Memory.Transaction.addSubscription_cases t committed row tx reservations with
      ⟨e, refused⟩ | ⟨key, rows', -, -, -, success, answered⟩
    · simp [refused, added, Except.toOption] at alone
    · cases added.symm.trans success
      rw [answered, there]
      obtain ⟨-, -, rfl⟩ := Tables.addSubscription_eq_ok_iff.mp added
      exact ⟨rfl, rfl, ⟨readable.ruleTypes, readable.profiles⟩, fun _ failed => by cases failed⟩

theorem putRuleType_matched
    (own : ∀ n, ids (.issued (.transaction t) n) = .issued (.transaction u) n)
    (intact : tx.rows.Intact) (readable : ReadableRows tx.rows) (content : NewContent RuleType)
    (possible : RuleType.ofJson content.definition.toJson = .ok content.definition) :
    Matched ids (.putRuleType content) (tx, reservations)
      (Memory.Transaction.answer t committed (.putRuleType content) (tx, reservations))
      (Database.Transaction.answer u (.putRuleType (ids.newContent content))
        (mirrored ids tx)) := by
  have next : (mirrored ids tx).nextId u = ids (tx.nextId t) := (own tx.issued).symm
  have both := (stored ids).putRuleType_tables (t := tx.rows) Memory.schema Database.schema
    (content.row (tx.nextId t) content.definition.name)
  simp only [Database.Transaction.answer_putRuleType, Memory.Transaction.answer, next]
  change ((mirrored ids tx).rows.putRuleType Database.schema
    (((ids.newContent content).row (ids (tx.nextId t)) (ids.newContent content).definition.name
      ).withDefinition (ids.newContent content).definition.toJson)).toOption = _ at both
  rcases succeed_together both with ⟨e, e', put, there⟩ | ⟨⟨kept, rows⟩, put, there⟩ <;>
    rw [put, there]
  · exact .refused readable _ _
  · obtain ⟨-, keptEq, rfl⟩ := Tables.putRuleType_eq_ok_iff.mp put
    refine ⟨?_, rfl, ⟨?_, ?_⟩, fun _ failed => by cases failed⟩
    · have sameDefinition : kept.definition = content.definition := by
        rw [keptEq, Tables.putRow_fst]
        rfl
      have asked : (ids.newContent content).definition = kept.definition := sameDefinition.symm
      simp only [Alike, Except.toOption, Option.map_some, asked]
      rfl
    · intro r member
      rcases (Tables.mem_putRow intact.ruleTypePlaces).mp member with ⟨old, -⟩ | rfl
      · exact readable.ruleTypes r old
      · rw [Tables.putRow_fst]
        exact possible
    · exact readable.profiles

theorem addProfile_matched
    (own : ∀ n, ids (.issued (.transaction t) n) = .issued (.transaction u) n)
    (readable : ReadableRows tx.rows) (content : NewContent Profile)
    (possible : Profile.ofJson content.definition.toJson = .ok content.definition) :
    Matched ids (.addProfile content) (tx, reservations)
      (Memory.Transaction.answer t committed (.addProfile content) (tx, reservations))
      (Database.Transaction.answer u (.addProfile (ids.newContent content))
        (mirrored ids tx)) := by
  have next : (mirrored ids tx).nextId u = ids (tx.nextId t) := (own tx.issued).symm
  have both := (stored ids).addProfile_tables (t := tx.rows) Memory.schema Database.schema
    (content.row (tx.nextId t) content.definition.name)
  simp only [Database.Transaction.answer_addProfile, Memory.Transaction.answer, next]
  change ((mirrored ids tx).rows.addProfile Database.schema
    (((ids.newContent content).row (ids (tx.nextId t)) (ids.newContent content).definition.name
      ).withDefinition (ids.newContent content).definition.toJson)).toOption = _ at both
  rcases succeed_together both with ⟨e, e', added, there⟩ | ⟨rows, added, there⟩ <;>
    rw [added, there]
  · exact .refused readable _ _
  · obtain ⟨-, -, rfl⟩ := Tables.addProfile_eq_ok_iff.mp added
    refine ⟨rfl, rfl, ⟨readable.ruleTypes, ?_⟩, fun _ failed => by cases failed⟩
    intro p member
    rcases List.mem_append.mp member with old | new
    · exact readable.profiles p old
    · rw [List.mem_singleton.mp new]
      exact possible

/-- What a request is answered on both sides. -/
theorem answer_matched (own : ∀ n, ids (.issued (.transaction t) n) = .issued (.transaction u) n)
    (unreserved : ∀ key, reservations.heldByOther key t = false) (kept : committed.Keeps tx.rows)
    (intactCommitted : committed.Intact) (intact : tx.rows.Intact) (readable : ReadableRows tx.rows)
    (q : Request) (possible : q.Readable) :
    Matched ids q (tx, reservations) (Memory.Transaction.answer t committed q (tx, reservations))
      (Database.Transaction.answer u (ids.request q) (mirrored ids tx)) := by
  cases q with
  | findSubscription project space name =>
    have same : (mirrored ids tx).rows.subscription? project space name = _ :=
      (stored ids).subscription?_tables (t := tx.rows) project space name
    simp only [Renaming.request, Memory.Transaction.answer,
      Database.Transaction.answer_findSubscription (mirrored_intact intact), same]
    cases tx.rows.subscription? project space name <;> exact .look readable rfl
  | ensureBundle space name =>
    have next : (mirrored ids tx).nextId u = ids (tx.nextId t) := (own tx.issued).symm
    have same : (mirrored ids tx).rows.bundle? space name = _ :=
      (stored ids).bundle?_tables (t := tx.rows) space name
    simp only [Renaming.request, Memory.Transaction.answer,
      Database.Transaction.answer_ensureBundle, same]
    cases tx.rows.bundle? space name with
    | some b => exact .look readable rfl
    | none =>
      simp only [Option.map_none, next]
      refine ⟨rfl, ?_, ⟨readable.ruleTypes, readable.profiles⟩, fun _ failed => by cases failed⟩
      have added := (stored ids).addBundle_tables (t := tx.rows) ⟨tx.nextId t, space, name⟩
      exact congrArg (Database.Transaction.mk · (tx.issued + 1)) added.symm
  | addSubscription project bundle version =>
    exact addSubscription_matched own unreserved kept intactCommitted intact readable ..
  | putRuleType content => exact putRuleType_matched own intact readable content possible
  | findRuleType project name =>
    have same : (mirrored ids tx).rows.ruleType? project name =
        (tx.rows.ruleType? project name).map (ids.written RuleType.toJson) :=
      (stored ids).ruleType?_tables (t := tx.rows) project name
    simp only [Renaming.request, Memory.Transaction.answer, Database.Transaction.answer,
      Database.Transaction.select_ruleTypes, same]
    exact .look readable (found_matched readable.ruleType?)
  | addProfile content => exact addProfile_matched own readable content possible
  | findProfile project name =>
    have same : (mirrored ids tx).rows.profile? project name =
        (tx.rows.profile? project name).map (ids.written Profile.toJson) :=
      (stored ids).profile?_tables (t := tx.rows) project name
    simp only [Renaming.request, Memory.Transaction.answer, Database.Transaction.answer,
      Database.Transaction.select_profiles, same]
    exact .look readable (found_matched readable.profile?)

end Answer

end RuleCatalog.Store
