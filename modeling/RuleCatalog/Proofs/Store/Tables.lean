import Mathlib.Data.List.Nodup
import RuleCatalog.Store.Tables

/-! # What changes do to tables

Each change of the tables is described by when it is made and what the tables are afterwards. No
change takes a row away: bundles, subscriptions and profiles stay as they are and in their order,
and a rule type keeps its id, its project and its name whatever is put in its place.
-/

namespace RuleCatalog.Store

/-- A row is found by what tells it from all others. -/
theorem find?_eq_some_iff_of_nodup {α κ : Type} {rows : List α} {key : α → κ}
    (distinct : (rows.map key).Nodup) {p : α → Bool} {k : κ}
    (selects : ∀ row, p row = true ↔ key row = k) {row : α} :
    rows.find? p = some row ↔ row ∈ rows ∧ key row = k := by
  constructor
  · intro found
    exact ⟨List.mem_of_find?_eq_some found, (selects row).mp (List.find?_some found)⟩
  · rintro ⟨member, same⟩
    obtain ⟨first, found⟩ : ∃ first, rows.find? p = some first :=
      Option.isSome_iff_exists.mp
        (List.find?_isSome.mpr ⟨row, member, (selects row).mpr same⟩)
    have firstSame := (selects first).mp (List.find?_some found)
    rw [found, List.inj_on_of_nodup_map distinct (List.mem_of_find?_eq_some found) member
      (firstSame.trans same.symm)]

/-- What tells bundles apart. -/
def BundleRow.names (b : BundleRow) : String × String := (b.space, b.name)

/-- What tells subscriptions apart: there is one of a project to a bundle. -/
def Subscription.pair (s : Subscription) : Uuid × RowId := (s.project, s.bundle)

namespace ContentRow

variable {α : Type}

/-- Where a row belongs: there is one rule type and one profile in each place. -/
def place (r : ContentRow α) : Uuid × String := (r.project, r.name)

/-- What a row keeps when other content is put in its place. -/
def mark (r : ContentRow α) : RowId × Uuid × String := (r.id, r.project, r.name)

theorem isAt_iff {r : ContentRow α} {project : Uuid} {name : String} :
    r.isAt project name = true ↔ r.place = (project, name) := by
  simp [isAt, place]

theorem place_of_found {rows : List (ContentRow α)} {r : ContentRow α} {project : Uuid}
    {name : String} (found : rows.find? (·.isAt project name) = some r) :
    r.place = (project, name) :=
  isAt_iff.mp (List.find?_some (p := fun r : ContentRow α => r.isAt project name) found)

theorem not_mem_places_of_absent {rows : List (ContentRow α)} {project : Uuid} {name : String}
    (absent : rows.find? (·.isAt project name) = none) : (project, name) ∉ rows.map place := by
  intro member
  obtain ⟨r, member, same⟩ := List.mem_map.mp member
  exact List.find?_eq_none.mp absent r member (isAt_iff.mpr same)

end ContentRow

namespace Tables

variable {ρ π : Type} {schema : Schema} {t t' : Tables ρ π}

/-! ## Putting a row -/

section PutRow

variable {α : Type} {row other : ContentRow α} {rows : List (ContentRow α)}

theorem putRow_of_absent (absent : rows.find? (·.isAt row.project row.name) = none) :
    putRow row rows = (row, rows ++ [row]) := by
  induction rows with
  | nil => rfl
  | cons first rest ih =>
    simp only [List.find?_eq_none, List.mem_cons, forall_eq_or_imp] at absent ih
    simp [putRow, absent.1, ih absent.2]

theorem putRow_of_present (present : rows.find? (·.isAt row.project row.name) = some other) :
    ∃ before after, rows = before ++ other :: after ∧
      (∀ r ∈ before, r.isAt row.project row.name = false) ∧
      putRow row rows =
        ({ row with id := other.id }, before ++ { row with id := other.id } :: after) := by
  induction rows with
  | nil => simp at present
  | cons first rest ih =>
    by_cases here : first.isAt row.project row.name = true
    · simp only [List.find?_cons, here, Option.some.injEq] at present
      subst present
      exact ⟨[], rest, rfl, by simp, by simp [putRow, here]⟩
    · simp only [List.find?_cons, here] at present
      obtain ⟨before, after, split, elsewhere, put⟩ := ih present
      refine ⟨first :: before, after, by rw [split]; rfl, ?_, ?_⟩
      · simpa using And.intro (by simpa using here) elsewhere
      · simp [putRow, here, put]

/-- A row that does not belong among the first rows is put among the others. -/
theorem putRow_append {more : List (ContentRow α)}
    (absent : rows.find? (·.isAt row.project row.name) = none) :
    putRow row (rows ++ more) = ((putRow row more).1, rows ++ (putRow row more).2) := by
  induction rows with
  | nil => rfl
  | cons first rest ih =>
    simp only [List.find?_eq_none, List.mem_cons, forall_eq_or_imp] at absent ih
    simp [putRow, absent.1, ih absent.2]

/-- The row as it is kept has the id of the row that it replaces. -/
theorem putRow_fst : (putRow row rows).1 =
    { row with id := ((rows.find? (·.isAt row.project row.name)).map (·.id)).getD row.id } := by
  cases found : rows.find? (·.isAt row.project row.name) with
  | none => simp [putRow_of_absent found]
  | some other =>
    obtain ⟨before, after, -, -, put⟩ := putRow_of_present found
    simp [put]

@[simp] theorem putRow_fst_place : (putRow row rows).1.place = row.place := by
  rw [putRow_fst]
  rfl

theorem mem_putRow (distinct : (rows.map ContentRow.place).Nodup) :
    other ∈ (putRow row rows).2 ↔
      other ∈ rows ∧ other.place ≠ row.place ∨ other = (putRow row rows).1 := by
  cases found : rows.find? (·.isAt row.project row.name) with
  | none =>
    have elsewhere : other ∈ rows → other.place ≠ row.place := fun member same =>
      ContentRow.not_mem_places_of_absent found (List.mem_map.mpr ⟨other, member, same⟩)
    rw [putRow_of_absent found]
    simp only [List.mem_append, List.mem_singleton]
    exact or_congr_left ⟨fun member => ⟨member, elsewhere member⟩, And.left⟩
  | some old =>
    have oldPlace : old.place = row.place := ContentRow.place_of_found found
    obtain ⟨before, after, rfl, -, put⟩ := putRow_of_present found
    have elsewhere : ∀ r ∈ before ++ after, r.place ≠ row.place := by
      intro r member same
      have unique := (List.nodup_cons.mp
        ((List.perm_middle.map ContentRow.place).nodup_iff.mp distinct)).1
      exact unique (List.mem_map.mpr ⟨r, member, same.trans oldPlace.symm⟩)
    have oldPart : other ∈ before ++ old :: after ∧ other.place ≠ row.place ↔
        other ∈ before ++ after := by
      constructor
      · rintro ⟨member, apart⟩
        rcases List.mem_append.mp member with member | member
        · exact List.mem_append_left _ member
        · rcases List.mem_cons.mp member with rfl | member
          · exact (apart oldPlace).elim
          · exact List.mem_append_right _ member
      · intro member
        refine ⟨?_, elsewhere other member⟩
        simp only [List.mem_append, List.mem_cons] at member ⊢
        tauto
    rw [oldPart, put]
    simp only [List.mem_append, List.mem_cons]
    tauto

/-- A row that was put is found in its place, and whatever was found elsewhere still is. -/
theorem find?_putRow {project : Uuid} {name : String} :
    (putRow row rows).2.find? (·.isAt project name) =
      if row.isAt project name then some (putRow row rows).1
      else rows.find? (·.isAt project name) := by
  induction rows with
  | nil => by_cases here : row.isAt project name = true <;> simp [putRow, here]
  | cons other rest ih =>
    by_cases same : other.isAt row.project row.name = true
    · have place : other.isAt project name = row.isAt project name := by
        rw [Bool.eq_iff_iff, ContentRow.isAt_iff, ContentRow.isAt_iff, ContentRow.isAt_iff.mp same]
        rfl
      have kept : ({ row with id := other.id } : ContentRow α).isAt project name =
          row.isAt project name := rfl
      by_cases here : row.isAt project name = true <;> simp [putRow, same, place, kept, here]
    · by_cases here : other.isAt project name = true
      · have apart : row.isAt project name ≠ true := by
          intro there
          rw [ContentRow.isAt_iff] at here there same
          exact same (here.trans there.symm)
        simp [putRow, same, here, apart]
      · simp [putRow, same, here, ih]

/-- Other content in a place changes no row's id, project or name. -/
theorem putRow_marks : rows.map ContentRow.mark <+: (putRow row rows).2.map ContentRow.mark := by
  cases found : rows.find? (·.isAt row.project row.name) with
  | none => simp [putRow_of_absent found]
  | some old =>
    have oldPlace : old.place = row.place := ContentRow.place_of_found found
    obtain ⟨before, after, rfl, -, put⟩ := putRow_of_present found
    have same : ContentRow.mark { row with id := old.id } = old.mark :=
      congrArg (Prod.mk old.id) oldPlace.symm
    simp [put, same]

theorem putRow_places_nodup (distinct : (rows.map ContentRow.place).Nodup) :
    ((putRow row rows).2.map ContentRow.place).Nodup := by
  cases found : rows.find? (·.isAt row.project row.name) with
  | none =>
    rw [putRow_of_absent found, List.map_append, List.map_singleton]
    exact List.nodup_append_comm.mp
      (List.nodup_cons.mpr ⟨ContentRow.not_mem_places_of_absent found, distinct⟩)
  | some old =>
    have oldPlace : old.place = row.place := ContentRow.place_of_found found
    obtain ⟨before, after, rfl, -, put⟩ := putRow_of_present found
    have same : ContentRow.place { row with id := old.id } = old.place := oldPlace.symm
    rw [put]
    simpa only [List.map_append, List.map_cons, same] using distinct

end PutRow

/-! ## Subscriptions that are found -/

/-- A subscription that is found is one of the project, to the bundle with the given names. -/
theorem subscription?_eq_some {project : Uuid} {space name : String} {s : Subscription}
    (found : t.subscription? project space name = some s) :
    s ∈ t.subscriptions ∧ s.project = project ∧
      ∃ b ∈ t.bundles, b.id = s.bundle ∧ b.names = (space, name) := by
  obtain ⟨b, bundle, found⟩ := Option.bind_eq_some_iff.mp found
  obtain ⟨own, same⟩ : s.project = project ∧ s.bundle = b.id := by
    simpa using List.find?_some found
  have names : b.names = (space, name) := by
    simpa [BundleRow.names] using List.find?_some bundle
  have known := List.mem_of_find?_eq_some bundle
  exact ⟨List.mem_of_find?_eq_some found, own, b, known, same.symm, names⟩

/-! ## When a change is made -/

theorem addSubscription_eq_ok_iff {row : Subscription} :
    t.addSubscription schema row = .ok t' ↔
      t.hasBundle row.bundle = true ∧ row.pair ∉ t.subscriptions.map Subscription.pair ∧
      t' = { t with subscriptions := t.subscriptions ++ [row] } := by
  have taken : (t.subscriptions.any fun s => s.project == row.project && s.bundle == row.bundle) =
      decide (row.pair ∈ t.subscriptions.map Subscription.pair) := by
    rw [Bool.eq_iff_iff]
    simp [Subscription.pair]
  rw [eq_comm (a := t')]
  by_cases known : t.hasBundle row.bundle = true
  · by_cases free : row.pair ∈ t.subscriptions.map Subscription.pair <;>
      simp [addSubscription, known, taken, free]
  · simp [addSubscription, known]

theorem putRuleType_eq_ok_iff {row kept : ContentRow ρ} :
    t.putRuleType schema row = .ok (kept, t') ↔
      t.linked row.subscription = true ∧ kept = (putRow row t.ruleTypes).1 ∧
      t' = { t with ruleTypes := (putRow row t.ruleTypes).2 } := by
  rw [eq_comm (a := kept), eq_comm (a := t')]
  by_cases linked : t.linked row.subscription = true <;> simp [putRuleType, linked]

theorem any_isAt_iff {α : Type} {rows : List (ContentRow α)} {project : Uuid} {name : String} :
    rows.any (·.isAt project name) = true ↔ (project, name) ∈ rows.map ContentRow.place := by
  simp only [List.any_eq_true, List.mem_map, ContentRow.isAt_iff]

theorem addProfile_eq_ok_iff {row : ContentRow π} :
    t.addProfile schema row = .ok t' ↔
      t.linked row.subscription = true ∧ row.place ∉ t.profiles.map ContentRow.place ∧
      t' = { t with profiles := t.profiles ++ [row] } := by
  have taken : (t.profiles.any (·.isAt row.project row.name)) =
      decide (row.place ∈ t.profiles.map ContentRow.place) := by
    rw [Bool.eq_iff_iff, any_isAt_iff, decide_eq_true_iff]
    rfl
  rw [eq_comm (a := t')]
  by_cases linked : t.linked row.subscription = true
  · by_cases free : row.place ∈ t.profiles.map ContentRow.place <;>
      simp [addProfile, linked, taken, free]
  · -- which broken rule is told depends on the schema, but one is told
    cases first : schema.missingFirst <;>
      by_cases free : row.place ∈ t.profiles.map ContentRow.place <;>
        simp [addProfile, linked, taken, free, first]

/-- Of a second profile it is told whenever its subscription is there. -/
theorem addProfile_of_taken {row : ContentRow π} (linked : t.linked row.subscription = true)
    (taken : row.place ∈ t.profiles.map ContentRow.place) :
    t.addProfile schema row = .error (.unique schema.secondProfile) := by
  have isSecond : (t.profiles.any (·.isAt row.project row.name)) = true := any_isAt_iff.mpr taken
  simp [addProfile, linked, isSecond]

/-! ## What stays -/

/-- Every row of the first tables is still in the second ones. -/
structure Keeps (s t : Tables ρ π) : Prop where
  bundles : s.bundles <+: t.bundles
  subscriptions : s.subscriptions <+: t.subscriptions
  /-- The content of a rule type may be another one. -/
  ruleTypes : s.ruleTypes.map ContentRow.mark <+: t.ruleTypes.map ContentRow.mark
  profiles : s.profiles <+: t.profiles

namespace Keeps

theorem refl (t : Tables ρ π) : Keeps t t :=
  ⟨List.prefix_rfl, List.prefix_rfl, List.prefix_rfl, List.prefix_rfl⟩

theorem trans {r s t : Tables ρ π} (first : Keeps r s) (second : Keeps s t) : Keeps r t :=
  ⟨first.bundles.trans second.bundles, first.subscriptions.trans second.subscriptions,
    first.ruleTypes.trans second.ruleTypes, first.profiles.trans second.profiles⟩

theorem addBundle (t : Tables ρ π) (row : BundleRow) : Keeps t (t.addBundle row) :=
  { refl t with bundles := List.prefix_append .. }

theorem addSubscription {row : Subscription} (added : t.addSubscription schema row = .ok t') :
    Keeps t t' := by
  obtain ⟨-, -, rfl⟩ := addSubscription_eq_ok_iff.mp added
  exact { refl t with subscriptions := List.prefix_append .. }

theorem putRuleType {row kept : ContentRow ρ} (put : t.putRuleType schema row = .ok (kept, t')) :
    Keeps t t' := by
  obtain ⟨-, -, rfl⟩ := putRuleType_eq_ok_iff.mp put
  exact { refl t with ruleTypes := putRow_marks }

theorem addProfile {row : ContentRow π} (added : t.addProfile schema row = .ok t') :
    Keeps t t' := by
  obtain ⟨-, -, rfl⟩ := addProfile_eq_ok_iff.mp added
  exact { refl t with profiles := List.prefix_append .. }

end Keeps

end Tables

end RuleCatalog.Store
