import Mathlib.Data.List.Forall2
import RuleCatalog.Proofs.Subscribing.First

/-! # Installing a rule type

A rule type is refused if it is unfit by itself, if the row of its name is not the subscription's
own, or if there is no such subscription, and then nothing is written. Otherwise the row of its name
has it, and no other row has changed. A row that has it already is left as it is. Nobody can tell
that from writing it again, except that installing the same rule type once more is only looking.
-/

namespace RuleCatalog

/-- Rule types that nobody can tell apart. -/
def RuleType.Same (a b : RuleType) : Prop := a = b ∨ a.agrees b = true

namespace Service

open Store Store.Memory
open Subscribing (NameChar OnlyLooks checkRuleType_eq_ok_iff isRuleTypeName_iff
  ruleType?_eq_none_iff)

variable {m : Memory} {h : Handle} {rows rows' : Rows} {project : Uuid} {provider : Provider}
  {subscription : RowId} {r : RuleType} {e : Service.Error}

/-- Installs a rule type, and writes it even if it is there already. -/
def alwaysInstall (project : Uuid) (provider : Provider) (subscription : RowId) (r : RuleType) :
    Script (Except Service.Error Unit) :=
  match checkRuleType r with
  | .error e => .done (.error e)
  | .ok _ =>
    .ask (.findRuleType project r.name) fun answer =>
      match answer with
      | .ok there =>
        if there.subscription ≠ some subscription then .done (.error (.foreignRuleType r.name))
        else writeRuleType project provider subscription r
      | .error .notFound => writeRuleType project provider subscription r
      | .error e => .done (.error (.store e))

/-! ## What is refused -/

/-- A rule type that makes sense by itself. -/
structure Fit (r : RuleType) : Prop where
  named : r.name ≠ ""
  plain : ∀ c ∈ r.name.toList, NameChar c
  defined : r.definition ≠ .null

theorem Fit.checked (fit : Fit r) : checkRuleType r = .ok () :=
  checkRuleType_eq_ok_iff.mpr ⟨fit.named, fit.plain, fit.defined⟩

/-- Why a rule type is not installed. -/
inductive Refused (rows : Rows) (project : Uuid) (subscription : RowId) (r : RuleType) :
    Service.Error → Prop
  | name (broken : r.name = "" ∨ ∃ c ∈ r.name.toList, ¬NameChar c) :
      Refused rows project subscription r (.ruleTypeName r.name)
  | definition (named : r.name ≠ "") (plain : ∀ c ∈ r.name.toList, NameChar c)
      (undefined : r.definition = .null) :
      Refused rows project subscription r (.noDefinition r.name)
  | foreign {row : ContentRow RuleType} (fit : Fit r) (there : row ∈ rows.ruleTypes)
      (place : row.place = (project, r.name)) (foreign : row.subscription ≠ some subscription) :
      Refused rows project subscription r (.foreignRuleType r.name)
  | missing (fit : Fit r) (free : (project, r.name) ∉ rows.ruleTypes.map ContentRow.place)
      (missing : subscription ∉ rows.subscriptions.map (·.id)) :
      Refused rows project subscription r
        (.store (.foreignKey "rule_types_subscription_id_fkey"))

/-- A rule type with nothing in its way. -/
structure Accepted (rows : Rows) (project : Uuid) (subscription : RowId) (r : RuleType) :
    Prop where
  fit : Fit r
  own : ∀ row ∈ rows.ruleTypes, row.place = (project, r.name) →
    row.subscription = some subscription
  known : rows.linked (some subscription) = true

theorem accepted_of_not_refused (intact : rows.Intact)
    (never : ∀ e, ¬Refused rows project subscription r e) :
    Accepted rows project subscription r := by
  have named : r.name ≠ "" := fun empty => never _ (.name (.inl empty))
  have plain : ∀ c ∈ r.name.toList, NameChar c := fun c member =>
    by_contra fun other => never _ (.name (.inr ⟨c, member, other⟩))
  have fit : Fit r := ⟨named, plain, fun undefined => never _ (.definition named plain undefined)⟩
  have own : ∀ row ∈ rows.ruleTypes, row.place = (project, r.name) →
      row.subscription = some subscription := fun row there place =>
    by_contra fun foreign => never _ (.foreign fit there place foreign)
  refine ⟨fit, own, ?_⟩
  by_cases free : (project, r.name) ∈ rows.ruleTypes.map ContentRow.place
  · -- the row that is there shows that there is the subscription
    obtain ⟨row, there, place⟩ := List.mem_map.mp free
    rw [← own row there place]
    exact intact.ruleTypeSubscriptions row there
  · have known : subscription ∈ rows.subscriptions.map (·.id) :=
      by_contra fun missing => never _ (.missing fit free missing)
    exact Tables.linked_iff.mpr (by simpa using known)

/-- A rule type is refused without anything being written. -/
theorem run_of_refused (provider : Provider) (sound : m.Sound) (view : m.view? h = some rows)
    (refused : Refused rows project subscription r e) :
    (installRuleType project provider subscription r).run (Memory.answer h) m = (.error e, m) ∧
      (alwaysInstall project provider subscription r).run (Memory.answer h) m = (.error e, m) := by
  cases refused with
  | name broken =>
    have checked : checkRuleType r = .error (.ruleTypeName r.name) := by
      have noName : ¬isRuleTypeName r.name = true := by
        simpa only [isRuleTypeName_iff, not_and_or, not_not, not_forall, exists_prop] using broken
      simp [checkRuleType, noName]
    simp only [installRuleType, alwaysInstall, checked, Script.run, and_self]
  | definition named plain undefined =>
    have checked : checkRuleType r = .error (.noDefinition r.name) := by
      simp [checkRuleType, isRuleTypeName_iff.mpr ⟨named, plain⟩, undefined]
    simp only [installRuleType, alwaysInstall, checked, Script.run, and_self]
  | foreign fit there place foreign =>
    have found := (sound.view_intact view).ruleType?_eq_some_iff.mpr ⟨there, place⟩
    simp only [installRuleType, alwaysInstall, fit.checked, Script.run,
      sound.look_ruleType view, found, Transaction.found, if_pos foreign, and_self]
  | missing fit free missing =>
    have unlinked : rows.linked (installed project provider subscription r).subscription = false :=
      Bool.eq_false_iff.mpr fun linked =>
        missing (by simpa [installed] using Tables.linked_iff.mp linked)
    have refused := sound.answer_putRuleType_of_missing view unlinked
    simp only [installRuleType, alwaysInstall, fit.checked, Script.run,
      sound.look_ruleType view, ruleType?_eq_none_iff.mpr free, Transaction.found,
      writeRuleType, refused, and_self]
    rfl

/-! ## What is written -/

/-- The row of a rule type that was installed. -/
structure Holds (project : Uuid) (provider : Provider) (subscription : RowId) (r : RuleType)
    (row : ContentRow RuleType) : Prop where
  place : row.place = (project, r.name)
  provider : row.provider = provider.id
  subscription : row.subscription = some subscription
  definition : row.definition.Same r

/-- A rule type has been installed: one row, which is new or has taken the place of the one with its
id, holds it, and all others are as they were. -/
inductive Installed (project : Uuid) (provider : Provider) (subscription : RowId) (r : RuleType)
    (rows : Rows) : Rows → Prop
  | added {row : ContentRow RuleType} (holds : Holds project provider subscription r row)
      (free : row.place ∉ rows.ruleTypes.map ContentRow.place) :
      Installed project provider subscription r rows
        { rows with ruleTypes := rows.ruleTypes ++ [row] }
  | replaced {row old : ContentRow RuleType} {before after : List (ContentRow RuleType)}
      (holds : Holds project provider subscription r row)
      (there : rows.ruleTypes = before ++ old :: after) (mark : old.mark = row.mark)
      (alone : row.place ∉ (before ++ after).map ContentRow.place) :
      Installed project provider subscription r rows
        { rows with ruleTypes := before ++ row :: after }

/-- The row of an installed rule type. -/
def installedRow (project : Uuid) (provider : Provider) (subscription : RowId) (r : RuleType)
    (id : RowId) : ContentRow RuleType :=
  (installed project provider subscription r).row id r.name

theorem holds_installedRow (id : RowId) : Holds project provider subscription r
    (installedRow project provider subscription r id) :=
  ⟨rfl, rfl, rfl, .inl rfl⟩

/-- The row is put where there is a row of the same name. -/
theorem find?_installedRow (rows : Rows) (project : Uuid) (provider : Provider)
    (subscription : RowId) (r : RuleType) (id : RowId) :
    rows.ruleTypes.find? (·.isAt (installedRow project provider subscription r id).project
      (installedRow project provider subscription r id).name) =
        rows.ruleType? project r.name := rfl

theorem Installed.exists_row (installed : Installed project provider subscription r rows rows') :
    ∃ row ∈ rows'.ruleTypes, Holds project provider subscription r row := by
  cases installed with
  | added holds free => exact ⟨_, List.mem_append_right _ (List.mem_singleton_self _), holds⟩
  | replaced holds there mark alone =>
    exact ⟨_, List.mem_append_right _ List.mem_cons_self, holds⟩

/-- Where places are unique, a row is alone in its place. -/
theorem place_not_mem {α : Type} {row : ContentRow α} {before after : List (ContentRow α)}
    (distinct : ((before ++ row :: after).map ContentRow.place).Nodup) :
    row.place ∉ (before ++ after).map ContentRow.place :=
  (List.nodup_cons.mp ((List.perm_middle.map ContentRow.place).nodup_iff.mp distinct)).1

theorem installed_of_carried (intact : rows.Intact) {row : ContentRow RuleType}
    (there : row ∈ rows.ruleTypes) (holds : Holds project provider subscription r row) :
    Installed project provider subscription r rows rows := by
  obtain ⟨before, after, split⟩ := List.mem_iff_append.mp there
  have alone := place_not_mem (split ▸ intact.ruleTypePlaces)
  have replaced := Installed.replaced holds split rfl alone
  rwa [← split] at replaced

theorem installed_putRow (intact : rows.Intact) (id : RowId) :
    Installed project provider subscription r rows { rows with
      ruleTypes := (Tables.putRow (installedRow project provider subscription r id)
        rows.ruleTypes).2 } := by
  have place := find?_installedRow rows project provider subscription r id
  cases found : rows.ruleType? project r.name with
  | none =>
    rw [Tables.putRow_of_absent (place.trans found)]
    exact .added (holds_installedRow id) (ruleType?_eq_none_iff.mp found)
  | some old =>
    have samePlace : old.place = (project, r.name) := ContentRow.place_of_found found
    obtain ⟨before, after, split, -, put⟩ := Tables.putRow_of_present (place.trans found)
    have alone := place_not_mem (split ▸ intact.ruleTypePlaces)
    rw [samePlace] at alone
    rw [put]
    exact .replaced (holds_installedRow old.id) split (congrArg (Prod.mk old.id) samePlace) alone

/-! ## What nobody can tell -/

/-- Rows that nobody can tell apart. -/
structure SameRow (a b : ContentRow RuleType) : Prop where
  mark : a.mark = b.mark
  provider : a.provider = b.provider
  subscription : a.subscription = b.subscription
  definition : a.definition.Same b.definition

/-- Tables that nobody can tell apart. -/
structure SameTables (rows rows' : Rows) : Prop where
  bundles : rows.bundles = rows'.bundles
  subscriptions : rows.subscriptions = rows'.subscriptions
  ruleTypes : List.Forall₂ SameRow rows.ruleTypes rows'.ruleTypes
  profiles : rows.profiles = rows'.profiles

theorem forall₂_sameRow (l : List (ContentRow RuleType)) : List.Forall₂ SameRow l l :=
  List.forall₂_same.mpr fun _ _ => ⟨rfl, rfl, rfl, .inl rfl⟩

theorem SameTables.refl (rows : Rows) : SameTables rows rows :=
  ⟨rfl, rfl, forall₂_sameRow _, rfl⟩

theorem optionRel_sameTables_refl (view : Option Rows) : Option.Rel SameTables view view := by
  cases view with
  | none => exact .none
  | some rows => exact .some (.refl rows)

/-- Nobody can tell that a row that holds a rule type has been written again. -/
theorem sameTables_putRow (intact : rows.Intact) {row : ContentRow RuleType}
    (there : row ∈ rows.ruleTypes) (holds : Holds project provider subscription r row)
    (id : RowId) :
    SameTables rows { rows with
      ruleTypes := (Tables.putRow (installedRow project provider subscription r id)
        rows.ruleTypes).2 } := by
  have found := intact.ruleType?_eq_some_iff.mpr ⟨there, holds.place⟩
  obtain ⟨before, after, split, -, put⟩ := Tables.putRow_of_present
    ((find?_installedRow rows project provider subscription r id).trans found)
  have same : SameRow row { installedRow project provider subscription r id with id := row.id } :=
    ⟨congrArg (Prod.mk row.id) holds.place, holds.provider, holds.subscription,
      holds.definition⟩
  refine ⟨rfl, rfl, ?_, rfl⟩
  rw [put, split]
  exact List.rel_append (forall₂_sameRow before) (.cons same (forall₂_sameRow after))

/-! ## What is accepted -/

/-- A rule type is written if its subscription is there. -/
theorem run_writeRuleType_of_known (project : Uuid) (provider : Provider) (r : RuleType)
    (view : m.view? h = some rows) (known : rows.linked (some subscription) = true) :
    ∃ id m', (writeRuleType project provider subscription r).run (Memory.answer h) m =
        (.ok (), m') ∧
      m'.view? h = some { rows with
        ruleTypes := (Tables.putRow (installedRow project provider subscription r id)
          rows.ruleTypes).2 } := by
  have linked : rows.linked (installed project provider subscription r).subscription = true :=
    known
  obtain ⟨id, kept, rows', put, granted, view'⟩ := answer_putRuleType view linked
  obtain ⟨-, -, rfl⟩ := Tables.putRuleType_eq_ok_iff.mp put
  refine ⟨id, _, ?_, view'⟩
  simp only [writeRuleType, Script.run, granted]

variable (accepted : Accepted rows project subscription r)

include accepted

theorem run_alwaysInstall (sound : m.Sound) (view : m.view? h = some rows) :
    (alwaysInstall project provider subscription r).run (Memory.answer h) m =
      (writeRuleType project provider subscription r).run (Memory.answer h) m := by
  simp only [alwaysInstall, accepted.fit.checked, Script.run, sound.look_ruleType view]
  cases found : rows.ruleType? project r.name with
  | none => rfl
  | some there =>
    have own := accepted.own there (List.mem_of_find?_eq_some found)
      (ContentRow.place_of_found found)
    simp [Transaction.found, own]

/-- A rule type that is accepted is written, or the row of its name holds it already and nothing
happens. -/
theorem run_of_accepted (provider : Provider) (sound : m.Sound) (view : m.view? h = some rows) :
    (installRuleType project provider subscription r).run (Memory.answer h) m =
        (writeRuleType project provider subscription r).run (Memory.answer h) m ∨
      (∃ row ∈ rows.ruleTypes, Holds project provider subscription r row) ∧
        (installRuleType project provider subscription r).run (Memory.answer h) m =
          (.ok (), m) := by
  simp only [installRuleType, accepted.fit.checked, Script.run, sound.look_ruleType view]
  cases found : rows.ruleType? project r.name with
  | none => exact .inl rfl
  | some there =>
    have member := List.mem_of_find?_eq_some found
    have place := ContentRow.place_of_found found
    have own := accepted.own there member place
    simp only [Transaction.found, own, ne_eq, not_true_eq_false, ↓reduceIte]
    split_ifs with unchanged
    · simp only [Bool.and_eq_true, beq_iff_eq] at unchanged
      exact .inr ⟨⟨there, member, place, unchanged.2, own, .inr unchanged.1⟩, rfl⟩
    · exact .inl rfl

omit accepted

/-- Installing a rule type that is there already is only looking. -/
theorem onlyLooks_installRuleType (sound : m.Sound) (view : m.view? h = some rows) (fit : Fit r)
    (finite : r.definition.Finite) {row : ContentRow RuleType} (there : row ∈ rows.ruleTypes)
    (holds : Holds project provider subscription r row) :
    OnlyLooks m h (installRuleType project provider subscription r)
      (.findRuleType project r.name) := by
  have found := (sound.view_intact view).ruleType?_eq_some_iff.mpr ⟨there, holds.place⟩
  have agrees : row.definition.agrees r = true := by
    rcases holds.definition with same | agrees
    · rw [same, RuleType.agrees_self finite]
    · exact agrees
  simp [OnlyLooks, installRuleType, fit.checked, Script.run, Handler.recorded,
    sound.look_ruleType view, found, Transaction.found, holds.subscription, holds.provider,
    agrees]

/-! ## All that comes of it -/

/-- What comes of installing a rule type through a handle that sees given tables. -/
structure Installs (m : Memory) (h : Handle) (rows : Rows) (project : Uuid) (provider : Provider)
    (subscription : RowId) (r : RuleType) (ended always : Except Service.Error Unit × Memory) :
    Prop where
  /-- It ends as if the rule type was always written. -/
  sameResult : ended.1 = always.1
  sameTables : ∀ h', Option.Rel SameTables (ended.2.view? h') (always.2.view? h')
  installed : ended.1 = .ok () → ∃ rows', ended.2.view? h = some rows' ∧
    Installed project provider subscription r rows rows'
  others : ∀ h', h' ≠ h → ended.2.view? h' = m.view? h'
  refused : ∀ e, ended.1 = .error e ↔ Refused rows project subscription r e
  unchanged : ∀ e, ended.1 = .error e → ended.2 = m
  again : r.definition.Finite → ended.1 = .ok () →
    OnlyLooks ended.2 h (installRuleType project provider subscription r)
      (.findRuleType project r.name)

theorem installs_of_refused (sound : m.Sound) (view : m.view? h = some rows)
    (refused : Refused rows project subscription r e) :
    Installs m h rows project provider subscription r
      ((installRuleType project provider subscription r).run (Memory.answer h) m)
      ((alwaysInstall project provider subscription r).run (Memory.answer h) m) := by
  obtain ⟨ended, always⟩ := run_of_refused provider sound view refused
  rw [ended, always]
  exact {
    sameResult := rfl
    sameTables := fun h' => optionRel_sameTables_refl (m.view? h')
    installed := nofun
    others := fun _ _ => rfl
    refused := fun e' => by
      constructor
      · rintro ⟨⟩
        exact refused
      · intro refused'
        have ended' := (run_of_refused provider sound view refused').1
        exact congrArg Prod.fst (ended.symm.trans ended')
    unchanged := fun _ _ => rfl
    again := fun _ => nofun }

theorem installs_of_ok {m' always : Memory} (sound : m'.Sound) (view : m'.view? h = some rows')
    (accepted : Accepted rows project subscription r)
    (never : ∀ e, ¬Refused rows project subscription r e)
    (installed : Installed project provider subscription r rows rows')
    (others : ∀ h', h' ≠ h → m'.view? h' = m.view? h')
    (same : ∀ h', Option.Rel SameTables (m'.view? h') (always.view? h')) :
    Installs m h rows project provider subscription r (.ok (), m') (.ok (), always) where
  sameResult := rfl
  sameTables := same
  installed _ := ⟨rows', view, installed⟩
  others := others
  refused e := iff_of_false nofun (never e)
  unchanged _ := nofun
  again finite _ := by
    obtain ⟨row, there, holds⟩ := installed.exists_row
    exact onlyLooks_installRuleType sound view accepted.fit finite there holds

/-- Through every handle that can come up, installing a rule type succeeds and fails as it should,
and nobody can tell that a row that holds it already was not written again. -/
theorem installs_ruleType (actions : List Action) (view : (empty.run actions).view? h = some rows)
    (project : Uuid) (provider : Provider) (subscription : RowId) (r : RuleType) :
    Installs (empty.run actions) h rows project provider subscription r
      ((installRuleType project provider subscription r).run (Memory.answer h)
        (empty.run actions))
      ((alwaysInstall project provider subscription r).run (Memory.answer h)
        (empty.run actions)) := by
  have sound := sound_run actions
  generalize empty.run actions = m at sound view ⊢
  have intact := sound.view_intact view
  by_cases refused : ∃ e, Refused rows project subscription r e
  · obtain ⟨e, refused⟩ := refused
    exact installs_of_refused sound view refused
  · have never := not_exists.mp refused
    have accepted := accepted_of_not_refused intact never
    obtain ⟨id, m', wrote, view'⟩ := run_writeRuleType_of_known project provider r view
      accepted.known
    have others (h' : Handle) (apart : h' ≠ h) : m'.view? h' = m.view? h' := by
      have kept := view?_run_ne (m := m) apart
        (writeRuleType project provider subscription r)
      rwa [wrote] at kept
    rw [run_alwaysInstall accepted sound view, wrote]
    rcases run_of_accepted accepted provider sound view with
      same | ⟨⟨row, there, holds⟩, ended⟩
    · have sound' := sound.run (h := h) (writeRuleType project provider subscription r)
      rw [wrote] at same sound'
      rw [same]
      exact installs_of_ok sound' view' accepted never (installed_putRow intact id) others
        fun h' => optionRel_sameTables_refl (m'.view? h')
    · rw [ended]
      refine installs_of_ok sound view accepted never (installed_of_carried intact there holds)
        (fun _ _ => rfl) fun h' => ?_
      by_cases here : h' = h
      · rw [here, view, view']
        exact .some (sameTables_putRow intact there holds id)
      · rw [others h' here]
        exact optionRel_sameTables_refl (m.view? h')

/-- A rule type with a number in its definition. -/
private def limiting (limit : Binary64) : RuleType :=
  { RuleType.named "limit" with definition := .object [("max", .number (.float limit))] }

/-- A project subscribes to a bundle in a transaction and gets the rule type. -/
private def supplying (limit : Binary64) : List Action :=
  [.begin 0, .ask (.transaction 0) (.ensureBundle "stacklok" "healthcheck"),
    .ask (.transaction 0) (.addSubscription ⟨1⟩ (.issued (.transaction 0) 0) "1.0.0"),
    .ask (.transaction 0)
      (.putRuleType ⟨⟨1⟩, ⟨2⟩, some (.issued (.transaction 0) 1), limiting limit⟩)]

/-- The rule type is there with a negative zero and is installed with a positive one. -/
theorem installs_ruleType_zeros :
    ∃ ended always : Except Service.Error Unit × Memory,
      ended = (.ok (), empty.run (supplying Binary64.zero.neg)) ∧ always.1 = .ok () ∧
        (∀ h', Option.Rel SameTables (ended.2.view? h') (always.2.view? h')) ∧
        OnlyLooks ended.2 (.transaction 0)
          (installRuleType ⟨1⟩ ⟨⟨2⟩, "github"⟩ (.issued (.transaction 0) 1)
            (limiting .zero))
          (.findRuleType ⟨1⟩ "limit") := by
  have installs := installs_ruleType (supplying Binary64.zero.neg) (h := .transaction 0) rfl
    ⟨1⟩ ⟨⟨2⟩, "github"⟩ (.issued (.transaction 0) 1) (limiting .zero)
  have ended : (installRuleType ⟨1⟩ ⟨⟨2⟩, "github"⟩ (.issued (.transaction 0) 1)
      (limiting .zero)).run (Memory.answer (.transaction 0))
        (empty.run (supplying Binary64.zero.neg)) =
          (.ok (), empty.run (supplying Binary64.zero.neg)) := rfl
  have succeeded := congrArg Prod.fst ended
  have finite : (limiting .zero).definition.Finite := ⟨trivial, rfl, trivial⟩
  exact ⟨_, _, ended, installs.sameResult.symm.trans succeeded, installs.sameTables,
    installs.again finite succeeded⟩

end Service

end RuleCatalog
