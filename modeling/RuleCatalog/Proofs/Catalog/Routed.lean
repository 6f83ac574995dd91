import Mathlib.Data.Prod.Lex
import RuleCatalog.Proofs.Subscribing.Confined
import RuleCatalog.Proofs.Text.Order

/-! # Which source serves which bundle

A catalog is made from sources that list bundles as they like: several may list one bundle, and a
source may list it twice. All listed bundles are known, each once and in the order of their names,
and an operation on one of them goes to the last source that lists it.
-/

namespace RuleCatalog

/-! ## The order of ids -/

/-- One id comes before another by the bytes of its namespace, or else by those of its name. -/
def BundleId.Precedes (a b : BundleId) : Prop :=
  a.space.toUTF8.data.toList < b.space.toUTF8.data.toList ∨
    a.space = b.space ∧ a.name.toUTF8.data.toList < b.name.toUTF8.data.toList

namespace BundleId

variable {a b : BundleId}

/-- The names of an id, as they count for the order. -/
def rank (id : BundleId) : String ×ₗ String := toLex (id.space, id.name)

theorem rank_injective : Function.Injective rank := by
  rintro ⟨space, name⟩ ⟨space', name'⟩ same
  obtain ⟨rfl, rfl⟩ := Prod.mk.inj (toLex.injective same)
  rfl

theorem before_iff_rank_lt : a.before b = true ↔ a.rank < b.rank := by
  simp [before, rank, Prod.Lex.toLex_lt_toLex]

theorem rank_lt_iff_precedes : a.rank < b.rank ↔ a.Precedes b := by
  simp only [rank, Prod.Lex.toLex_lt_toLex, Text.lt_iff_bytes_lt, Precedes]

theorem not_before_iff_rank_le : (!b.before a) = true ↔ a.rank ≤ b.rank := by
  rw [Bool.not_eq_true', ← Bool.not_eq_true, before_iff_rank_lt, not_lt]

end BundleId

/-- Every element is kept once. -/
theorem nodup_eraseDups {α : Type} [DecidableEq α] (items : List α) : items.eraseDups.Nodup := by
  match items with
  | [] => simp
  | item :: rest =>
    rw [List.eraseDups_cons, List.nodup_cons]
    refine ⟨fun again => ?_, nodup_eraseDups _⟩
    have others := (List.mem_filter.mp (List.mem_eraseDups.mp again)).2
    simp at others
  termination_by items.length
  decreasing_by
    have := List.length_filter_le (fun other => !other == item) rest
    simp only [List.length_cons]
    omega

namespace Catalog

open Store Subscribing

/-! ## Listing -/

/-- A source lists a bundle. -/
def Lists (s : Source) (id : BundleId) : Prop := ∃ ids, s.ids = .ok ids ∧ id ∈ ids

/-- A source is the last one that lists a bundle. -/
def LastToList (sources : List Source) (id : BundleId) (s : Source) : Prop :=
  ∃ before after, sources = before ++ s :: after ∧ Lists s id ∧ ∀ later ∈ after, ¬Lists later id

variable {sources : List Source} {s first : Source} {id : BundleId} {routes : Routes}

theorem lists_iff {ids : List BundleId} (listed : s.ids = .ok ids) : Lists s id ↔ id ∈ ids := by
  simp [Lists, listed]

theorem lastToList_cons : LastToList (first :: sources) id s ↔
    LastToList sources id s ∨ (s = first ∧ Lists s id ∧ ∀ later ∈ sources, ¬Lists later id) := by
  constructor
  · rintro ⟨before, after, split, lists, last⟩
    cases before with
    | nil =>
      cases split
      exact .inr ⟨rfl, lists, last⟩
    | cons other before =>
      cases split
      exact .inl ⟨before, after, rfl, lists, last⟩
  · rintro (⟨before, after, rfl, lists, last⟩ | ⟨rfl, lists, last⟩)
    · exact ⟨first :: before, after, rfl, lists, last⟩
    · exact ⟨[], sources, rfl, lists, last⟩

/-- Among sources of which some list a bundle there is a last one. -/
theorem exists_lastToList : (∃ s, LastToList sources id s) ↔ ∃ s ∈ sources, Lists s id := by
  induction sources with
  | nil => simp [LastToList]
  | cons first sources ih =>
    simp only [lastToList_cons, exists_or, ih, List.exists_mem_cons_iff]
    constructor
    · rintro (later | ⟨s, rfl, lists, -⟩)
      · exact .inr later
      · exact .inl lists
    · rintro (lists | later)
      · by_cases later : ∃ s ∈ sources, Lists s id
        · exact .inl later
        · exact .inr ⟨first, rfl, lists, fun s member again => later ⟨s, member, again⟩⟩
      · exact .inl later

/-- The first of some sources that cannot list its bundles. -/
def FirstToFail (sources : List Source) (s : Source) (e : Source.Error) : Prop :=
  ∃ before after, sources = before ++ s :: after ∧ s.ids = .error e ∧
    ∀ earlier ∈ before, ∃ ids, earlier.ids = .ok ids

theorem exists_firstToFail (failing : ∃ s ∈ sources, ∃ e, s.ids = .error e) :
    ∃ s e, FirstToFail sources s e := by
  induction sources with
  | nil => simp at failing
  | cons first sources ih =>
    cases listed : first.ids with
    | error e => exact ⟨first, e, [], sources, rfl, listed, nofun⟩
    | ok ids =>
      obtain ⟨s, e, before, after, rfl, fails, earlier⟩ : ∃ s e, FirstToFail sources s e := by
        apply ih
        simpa [listed] using failing
      exact ⟨s, e, first :: before, after, rfl, fails,
        List.forall_mem_cons.mpr ⟨⟨ids, listed⟩, earlier⟩⟩

/-! ## Starting -/

/-- Routes to sources: every bundle that one of them lists is routed to the last one. -/
def RoutesTo (sources : List Source) (routes : Routes) : Prop :=
  ∀ id s, routes.lookup id = some s ↔ LastToList sources id s

theorem addRoutes_of_listed {ids : List BundleId} (listed : s.ids = .ok ids) :
    addRoutes routes s = .ok ((ids.map (·, s)).reverse ++ routes) := by
  simp only [addRoutes, listed]

theorem lookup_listed {ids : List BundleId} {t : Source} :
    ((ids.map (·, s)).reverse).lookup id = some t ↔ id ∈ ids ∧ t = s := by
  rw [← List.map_reverse, ← List.mem_reverse]
  induction ids.reverse with
  | nil => simp
  | cons other ids ih =>
    by_cases here : id = other
    · simp [here, eq_comm]
    · simp [List.lookup_cons, beq_false_of_ne here, here, ih]

/-- As long as the sources can list their bundles they are gathered, the last ones first. -/
theorem exists_routesTo (listing : ∀ s ∈ sources, ∃ ids, s.ids = .ok ids) :
    ∃ added, RoutesTo sources added ∧
      ∀ routes, sources.foldlM addRoutes routes = .ok (added ++ routes) := by
  induction sources with
  | nil => exact ⟨[], fun id s => by simp [LastToList], fun routes => rfl⟩
  | cons first sources ih =>
    obtain ⟨⟨ids, listed⟩, listing⟩ := List.forall_mem_cons.mp listing
    obtain ⟨added, leads, gathered⟩ := ih listing
    refine ⟨added ++ (ids.map (·, first)).reverse, fun id s => ?_, fun routes => ?_⟩
    · have absent : added.lookup id = none ↔ ∀ later ∈ sources, ¬Lists later id := by
        rw [Option.eq_none_iff_forall_ne_some]
        simp only [ne_eq, leads id, ← not_exists, exists_lastToList]
        simp
      rw [List.lookup_append, Option.or_eq_some_iff, leads, absent, lookup_listed, lastToList_cons,
        ← lists_iff listed]
      refine or_congr_right ⟨?_, ?_⟩
      · rintro ⟨last, lists, rfl⟩
        exact ⟨rfl, lists, last⟩
      · rintro ⟨rfl, lists, last⟩
        exact ⟨last, lists, rfl⟩
    · rw [List.append_assoc, ← gathered, List.foldlM_cons, addRoutes_of_listed listed]
      rfl

/-- The failure of the first source that cannot list its bundles is the failure of all. -/
theorem ofSources_of_fails {e : Source.Error} (fails : FirstToFail sources s e) :
    ofSources sources = .error (.source s.description e) := by
  obtain ⟨before, after, rfl, failing, earlier⟩ := fails
  obtain ⟨added, -, gathered⟩ := exists_routesTo earlier
  have refused (routes : Routes) : addRoutes routes s = .error (.source s.description e) := by
    simp only [addRoutes, failing]
  simp only [ofSources, List.foldlM_append, gathered, List.foldlM_cons, refused, bind, Except.bind]
  rfl

/-! ## Routing -/

/-- An operation on a bundle that was handed out. -/
def withOffering (offering : Offering) : Operation → Script (Except Error Unit)
  | .subscribe project id => (Subscribing.subscribe project offering).andThen fun outcome =>
      .done (outcome.mapError (.subscribe id))
  | .addProfile project id profile =>
      (Subscribing.addProfile project offering profile).andThen fun outcome =>
        .done (outcome.mapError (.addProfile id profile))

/-- An operation with the bundle that a source hands out for it, or with none. -/
def through (s : Source) (o : Operation) : Script (Except Error Unit) :=
  match s.fetch o.bundle with
  | .error e => .done (.error (.fetch o.bundle e))
  | .ok offering => withOffering offering o

theorem script_of_lookup {o : Operation} (found : routes.lookup o.bundle = some s) :
    o.script (.routed routes) = through s o := by
  cases o <;> simp only [Operation.bundle] at found <;>
    simp only [Operation.script, subscribe, addProfile, resolve, through, Operation.bundle,
      found] <;>
    cases s.fetch _ <;> rfl

theorem script_of_unknown {o : Operation} (absent : routes.lookup o.bundle = none) :
    o.script (.routed routes) = .done (.error (.unknown o.bundle)) := by
  cases o <;> simp only [Operation.bundle] at absent <;>
    simp only [Operation.script, subscribe, addProfile, resolve, Operation.bundle, absent]

theorem mem_ids_iff : id ∈ ids (.routed routes) ↔ ∃ s, routes.lookup id = some s := by
  rw [ids, List.mem_mergeSort, List.mem_eraseDups, List.mem_map, ← Option.isSome_iff_exists,
    List.lookup_isSome_iff]
  simp only [beq_iff_eq, @eq_comm _ id]

/-- The ids are in strict order, so none occurs twice. -/
theorem ids_ascending : (ids (.routed routes)).Pairwise BundleId.Precedes := by
  have sorted : (ids (.routed routes)).Pairwise fun a b => (!b.before a) = true := by
    apply List.pairwise_mergeSort
    · simp only [BundleId.not_before_iff_rank_le]
      exact fun _ _ _ => le_trans
    · simp only [Bool.or_eq_true, BundleId.not_before_iff_rank_le]
      exact fun _ _ => le_total _ _
  have distinct : (ids (.routed routes)).Nodup :=
    (List.mergeSort_perm _ _).nodup_iff.mpr (nodup_eraseDups _)
  refine (sorted.and distinct).imp fun ⟨least, other⟩ => BundleId.rank_lt_iff_precedes.mp ?_
  exact (BundleId.not_before_iff_rank_le.mp least).lt_of_ne (BundleId.rank_injective.ne other)

/-- What a catalog of sources does: it knows what they list, and every operation goes to the last
source that lists the bundle and to no other. -/
structure Routed (c : Catalog) (sources : List Source) : Prop where
  known : ∀ id, id ∈ c.ids ↔ ∃ s ∈ sources, Lists s id
  once : c.ids.Nodup
  ascending : c.ids.Pairwise BundleId.Precedes
  served : ∀ (o : Operation) (s : Source), LastToList sources o.bundle s → o.script c = through s o
  /-- Neither a source nor the store is asked for a bundle that nobody lists. -/
  unknown : ∀ o : Operation, (∀ s ∈ sources, ¬Lists s o.bundle) →
    o.script c = .done (.error (.unknown o.bundle))

theorem routed_of_routesTo (leads : RoutesTo sources routes) : Routed (.routed routes) sources where
  known id := by rw [mem_ids_iff, ← exists_lastToList, exists_congr (leads id)]
  once := (List.mergeSort_perm _ _).nodup_iff.mpr (nodup_eraseDups _)
  ascending := ids_ascending
  served o s last := script_of_lookup ((leads _ _).mpr last)
  unknown o unlisted := by
    apply script_of_unknown
    refine Option.eq_none_iff_forall_ne_some.mpr fun s found => ?_
    obtain ⟨t, member, lists⟩ := exists_lastToList.mp ⟨s, (leads _ _).mp found⟩
    exact unlisted t member lists

/-- If all sources can list their bundles a catalog is made of them, which routes every bundle to
the last one that lists it. If some cannot, there is no catalog, and the first of them is told. -/
theorem routed_ofSources (sources : List Source) :
    ((∀ s ∈ sources, ∃ ids, s.ids = .ok ids) → ∃ c, ofSources sources = .ok c ∧ Routed c sources) ∧
    ((∃ s ∈ sources, ∃ e, s.ids = .error e) → ∃ s e, FirstToFail sources s e ∧
      ofSources sources = .error (.source s.description e)) := by
  constructor
  · intro listing
    obtain ⟨added, leads, gathered⟩ := exists_routesTo listing
    refine ⟨.routed added, ?_, routed_of_routesTo leads⟩
    rw [ofSources, gathered, List.append_nil]
    rfl
  · intro failing
    obtain ⟨s, e, fails⟩ := exists_firstToFail failing
    exact ⟨s, e, fails, ofSources_of_fails fails⟩

/-- A source with two bundles, one of which it lists twice. -/
private def generous : Source where
  description := "generous"
  ids := .ok [⟨"a", "c"⟩, ⟨"a", "b"⟩, ⟨"a", "c"⟩]
  fetch id := .error (.notServed id)

/-- A source with one bundle, which cannot be reached when it is asked for it. -/
private def flaky : Source where
  description := "flaky"
  ids := .ok [⟨"a", "c"⟩]
  fetch _ := .error (.unreachable "gone")

/-- A source that cannot list its bundles. -/
private def silent : Source where
  description := "silent"
  ids := .error (.unreachable "gone")
  fetch id := .error (.notServed id)

theorem routed_ofSources_overlapping :
    (∃ c, ofSources [generous, flaky] = .ok c ∧ ⟨"a", "b"⟩ ∈ c.ids ∧
      (∀ project, c.subscribe project ⟨"a", "c"⟩ =
        .done (.error (.fetch ⟨"a", "c"⟩ (.unreachable "gone")))) ∧
      ∀ project, c.subscribe project ⟨"a", "d"⟩ = .done (.error (.unknown ⟨"a", "d"⟩))) ∧
    ofSources [flaky, silent, generous] = .error (.source "silent" (.unreachable "gone")) := by
  constructor
  · have listing : ∀ s ∈ [generous, flaky], ∃ ids, s.ids = .ok ids := by
      simp [generous, flaky]
    obtain ⟨c, started, routed⟩ := (routed_ofSources [generous, flaky]).1 listing
    refine ⟨c, started, (routed.known _).mpr ?_, fun project => ?_, fun project => ?_⟩
    · exact ⟨generous, List.mem_cons_self, _, rfl, by decide⟩
    · apply routed.served (.subscribe project ⟨"a", "c"⟩) flaky
      exact ⟨[generous], [], rfl, ⟨_, rfl, List.mem_singleton.mpr rfl⟩, nofun⟩
    · apply routed.unknown (.subscribe project ⟨"a", "d"⟩)
      simp [Lists, generous, flaky, Operation.bundle]
  · obtain ⟨s, e, ⟨before, after, split, fails, earlier⟩, told⟩ :=
      (routed_ofSources [flaky, silent, generous]).2 ⟨silent, by simp, _, rfl⟩
    rcases before with _ | ⟨_, _ | ⟨_, before⟩⟩
    · cases split
      cases fails
    · cases split
      cases fails
      exact told
    · obtain ⟨-, split⟩ := List.cons.inj split
      obtain ⟨rfl, -⟩ := List.cons.inj split
      obtain ⟨ids, listed⟩ := earlier silent (by simp)
      cases listed

end Catalog

end RuleCatalog
