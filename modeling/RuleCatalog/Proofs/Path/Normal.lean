import Mathlib.Data.List.Basic
import Mathlib.Logic.Function.Iterate
import Mathlib.Tactic.ByContra
import RuleCatalog.Proofs.Path.Segments
import RuleCatalog.Settings

/-! # Paths without detours

A path is followed by names alone, without looking at any file: a name leads down, a step up leads
back and at the root nowhere. Every path leads from every place to where its form without detours
leads, and the written form of the latter is read as what it was written for, so bringing a path to
this form once is enough.
-/

namespace RuleCatalog

namespace Path

/-! ## Steps -/

/-- A text that stands for a step down. -/
structure IsName (name : String) : Prop where
  nonempty : name ≠ ""
  free : '/' ∉ name.toList
  notHere : name ≠ "."
  notAbove : name ≠ ".."

theorem IsName.letters {name : String} (proper : IsName name) :
    name.toList ≠ [] ∧ name.toList ≠ ['.'] ∧ name.toList ≠ ['.', '.'] := by
  have differs (other : String) (apart : name ≠ other) : name.toList ≠ other.toList :=
    fun same => apart (String.toList_inj.mp same)
  exact ⟨differs "" proper.nonempty, differs "." proper.notHere, differs ".." proper.notAbove⟩

namespace Step

/-- The written form of a step. -/
def text : Step → String
  | .up => ".."
  | .down name => name

/-- A step up, or down to a proper name. -/
def Proper : Step → Prop
  | .up => True
  | .down name => IsName name

variable {s : Step}

theorem Proper.text_ne_empty (proper : s.Proper) : s.text ≠ "" := by
  cases s with
  | up => decide
  | down name => exact proper.nonempty

theorem Proper.slash_not_mem (proper : s.Proper) : '/' ∉ s.text.toList := by
  cases s with
  | up => decide
  | down name => exact proper.free

/-- What is written for a step is read as the step. -/
theorem Proper.ofSegment?_text (proper : s.Proper) : ofSegment? s.text.toList = some s := by
  cases s with
  | up => rfl
  | down name =>
    obtain ⟨nonempty, notHere, notAbove⟩ := IsName.letters proper
    simp [ofSegment?, text, nonempty, notHere, notAbove]

theorem proper_of_ofSegment? {segment : List Char} (free : '/' ∉ segment)
    (read : ofSegment? segment = some s) : s.Proper := by
  rw [ofSegment?] at read
  split_ifs at read with detour above
  · cases read
    trivial
  · cases read
    rw [not_or] at detour
    have differs (other : List Char) (apart : segment ≠ other) :
        String.ofList segment ≠ String.ofList other :=
      fun same => apart (String.ofList_injective same)
    exact ⟨differs [] detour.1, by simpa using free, differs ['.'] detour.2,
      differs ['.', '.'] above⟩

end Step

theorem proper_of_mem_steps {path : String} {s : Step} (member : s ∈ steps path) : s.Proper := by
  obtain ⟨segment, present, read⟩ := List.mem_filterMap.mp member
  exact Step.proper_of_ofSegment? (slash_not_mem_of_mem_segments present) read

section Written

variable {ss : List Step}

/-- Steps that are written with slashes between them are read again. -/
theorem steps_intercalate (proper : ∀ s ∈ ss, s.Proper) :
    (segments '/' (['/'].intercalate (ss.map (·.text.toList)))).filterMap Step.ofSegment? = ss := by
  cases ss with
  | nil => rfl
  | cons first rest =>
    have free : ∀ part ∈ (first :: rest).map (·.text.toList), '/' ∉ part := by
      intro part member
      obtain ⟨s, given, rfl⟩ := List.mem_map.mp member
      exact (proper s given).slash_not_mem
    rw [segments_intercalate (by simp) free, List.filterMap_map]
    calc (first :: rest).filterMap (Step.ofSegment? ∘ (·.text.toList))
        = (first :: rest).filterMap some :=
          List.filterMap_congr fun s member => (proper s member).ofSegment?_text
      _ = first :: rest := List.filterMap_some

end Written

/-! ## Places -/

/-- Where a step leads from a place; at the root a step up leads nowhere. -/
def move (place : List String) : Step → List String
  | .down name => place ++ [name]
  | .up => place.dropLast

/-- Where a path leads from a place. -/
def lead (place : List String) (path : String) : List String :=
  (steps path).foldl move (if isAbsolute path then [] else place)

namespace Normal

variable {p : Normal} {s : Step}

/-- A path without detours as it should be. -/
structure Reduced (p : Normal) : Prop where
  /-- From the root there are no steps up. -/
  rooted : p.absolute = true → p.ups = 0
  names : ∀ name ∈ p.names, IsName name

/-- The steps of a path without detours. -/
def steps (p : Normal) : List Step := List.replicate p.ups .up ++ p.names.map .down

/-- Where a path without detours leads from a place. -/
def lead (p : Normal) (place : List String) : List String :=
  (if p.absolute then [] else List.dropLast^[p.ups] place) ++ p.names

theorem Reduced.take (reduced : p.Reduced) (proper : s.Proper) : (p.take s).Reduced := by
  cases s with
  | down name =>
    refine ⟨reduced.rooted, ?_⟩
    simp only [Normal.take, List.forall_mem_append, List.forall_mem_singleton]
    exact ⟨reduced.names, proper⟩
  | up =>
    simp only [Normal.take]
    split_ifs with inside rooted
    · exact ⟨reduced.rooted, fun name member => reduced.names name (List.dropLast_subset _ member)⟩
    · exact reduced
    · exact ⟨fun absolute => absurd absolute rooted, reduced.names⟩

/-- A step from where a path leads is where the path leads with this step. -/
theorem lead_take (p : Normal) (s : Step) (place : List String) :
    (p.take s).lead place = move (p.lead place) s := by
  cases s with
  | down name => exact (List.append_assoc ..).symm
  | up =>
    simp only [Normal.take, move]
    split_ifs with inside rooted
    · have nonempty : p.names ≠ [] := by simpa using inside
      rw [lead, lead, List.dropLast_append_of_ne_nil nonempty]
    · have atRoot : p.names = [] := by simpa using inside
      simp [lead, rooted, atRoot]
    · have atTop : p.names = [] := by simpa using inside
      simp [lead, rooted, atTop, Function.iterate_succ_apply']

theorem reduced_foldl_take (reduced : p.Reduced) {ss : List Step} (proper : ∀ s ∈ ss, s.Proper) :
    (ss.foldl Normal.take p).Reduced := by
  induction ss generalizing p with
  | nil => exact reduced
  | cons s ss ih =>
    obtain ⟨here, later⟩ := List.forall_mem_cons.mp proper
    exact ih (reduced.take here) later

theorem reduced_ofPath (path : String) : (ofPath path).Reduced :=
  reduced_foldl_take ⟨fun _ => rfl, List.forall_mem_nil _⟩ fun _ => proper_of_mem_steps

theorem lead_foldl_take (ss : List Step) (place : List String) :
    (ss.foldl Normal.take p).lead place = ss.foldl move (p.lead place) := by
  induction ss generalizing p with
  | nil => rfl
  | cons s ss ih => rw [List.foldl_cons, List.foldl_cons, ih, lead_take]

theorem absolute_foldl_take (p : Normal) (ss : List Step) :
    (ss.foldl Normal.take p).absolute = p.absolute := by
  induction ss generalizing p with
  | nil => rfl
  | cons s ss ih =>
    rw [List.foldl_cons, ih]
    cases s with
    | down name => rfl
    | up =>
      rw [Normal.take]
      split_ifs <;> rfl

/-- Bringing a path to the form without detours does not change where it leads. -/
theorem lead_ofPath (path : String) (place : List String) :
    (ofPath path).lead place = Path.lead place path := by
  rw [ofPath, lead_foldl_take, Path.lead]
  simp [lead]

/-! ## Written forms -/

theorem Reduced.proper_steps (reduced : p.Reduced) : ∀ s ∈ p.steps, s.Proper := by
  intro s member
  rcases List.mem_append.mp member with up | down
  · rw [List.eq_of_mem_replicate up]
    trivial
  · obtain ⟨name, given, rfl⟩ := List.mem_map.mp down
    exact reduced.names name given

theorem map_text_steps (p : Normal) :
    p.steps.map Step.text = List.replicate p.ups ".." ++ p.names := by
  simp [steps, Function.comp_def, Step.text]

theorem toList_text (p : Normal) : p.text.toList =
    if p.absolute then '/' :: ['/'].intercalate (p.steps.map (·.text.toList))
    else if p.steps = [] then ['.'] else ['/'].intercalate (p.steps.map (·.text.toList)) := by
  have written : (String.intercalate "/" (List.replicate p.ups ".." ++ p.names)).toList =
      ['/'].intercalate (p.steps.map (·.text.toList)) := by
    rw [String.toList_intercalate, ← map_text_steps, List.map_map]
    rfl
  have empty : (List.replicate p.ups ".." ++ p.names).isEmpty = true ↔ p.steps = [] := by
    rw [← map_text_steps, List.isEmpty_iff, List.map_eq_nil_iff]
  rw [text]
  simp only [empty]
  split_ifs
  · rw [String.toList_append, written]
    rfl
  · rfl
  · exact written

/-- The steps of the written form are those of the path. -/
theorem Reduced.steps_text (reduced : p.Reduced) : Path.steps p.text = p.steps := by
  have read := steps_intercalate reduced.proper_steps
  rw [Path.steps, toList_text]
  split_ifs with rooted nowhere
  · rw [segments, if_pos rfl]
    exact read
  · rw [nowhere]
    rfl
  · exact read

theorem Reduced.isAbsolute_text (reduced : p.Reduced) : isAbsolute p.text = p.absolute := by
  rw [isAbsolute, toList_text]
  split_ifs with rooted nowhere
  · exact rooted.symm
  · rw [Bool.eq_false_iff.mpr rooted]
    rfl
  · obtain ⟨first, rest, split⟩ := List.exists_cons_of_ne_nil nowhere
    have proper : first.Proper := reduced.proper_steps first (split ▸ List.mem_cons_self)
    obtain ⟨c, cs, written⟩ : ∃ c cs, first.text.toList = c :: cs :=
      List.exists_cons_of_ne_nil fun empty =>
        proper.text_ne_empty (String.toList_eq_nil_iff.mp empty)
    have apart : c ≠ '/' := fun same => proper.slash_not_mem (by simp [written, same])
    rw [split, Bool.eq_false_iff.mpr rooted]
    cases rest <;> simp [written, apart]

/-- Steps that have been taken are taken again. -/
theorem Reduced.foldl_take_steps (reduced : p.Reduced) :
    p.steps.foldl Normal.take ⟨p.absolute, 0, []⟩ = p := by
  have down (names more : List String) (ups : Nat) :
      (more.map Step.down).foldl Normal.take ⟨p.absolute, ups, names⟩ =
        ⟨p.absolute, ups, names ++ more⟩ := by
    induction more generalizing names with
    | nil => simp
    | cons name more ih =>
      rw [List.map_cons, List.foldl_cons]
      exact (ih (names ++ [name])).trans (by simp)
  have up (n : Nat) (relative : n ≠ 0 → p.absolute = false) :
      (List.replicate n Step.up).foldl Normal.take ⟨p.absolute, 0, []⟩ = ⟨p.absolute, n, []⟩ := by
    induction n with
    | zero => rfl
    | succ n ih =>
      rw [List.replicate_succ', List.foldl_concat, ih fun _ => relative (Nat.succ_ne_zero n)]
      simp [Normal.take, relative (Nat.succ_ne_zero n)]
  have relative : p.ups ≠ 0 → p.absolute = false := fun some =>
    Bool.eq_false_iff.mpr fun rooted => some (reduced.rooted rooted)
  rw [steps, List.foldl_append, up p.ups relative, down]
  rfl

/-- The written form of a path without detours stands for this path. -/
theorem Reduced.ofPath_text (reduced : p.Reduced) : ofPath p.text = p := by
  rw [ofPath, reduced.steps_text, reduced.isAbsolute_text, reduced.foldl_take_steps]

end Normal

/-! ## Texts without detours -/

/-- A text without detours: a lone dot, the root with names below it, or steps up and then names. -/
inductive Canonical : String → Prop
  | here : Canonical "."
  | root {names : List String} (plain : ∀ name ∈ names, IsName name) :
      Canonical ("/" ++ String.intercalate "/" names)
  | relative {ups : Nat} {names : List String} (plain : ∀ name ∈ names, IsName name)
      (somewhere : ups ≠ 0 ∨ names ≠ []) :
      Canonical (String.intercalate "/" (List.replicate ups ".." ++ names))

theorem Normal.Reduced.canonical {p : Normal} (reduced : p.Reduced) : Canonical p.text := by
  rw [text]
  split_ifs with rooted nowhere
  · rw [reduced.rooted rooted]
    exact .root reduced.names
  · exact .here
  · refine .relative reduced.names ?_
    by_contra! none
    simp [none] at nowhere

end Path

/-- The location without detours is a text without detours. It leads from every place to where the
location leads, starts at the root exactly if the location does, and stays as it is if it is brought
to this form again. -/
theorem SourceSetting.normalized_canonical (s : SourceSetting) :
    Path.Canonical s.normalized ∧
      (∀ place, Path.lead place s.normalized = Path.lead place s.location) ∧
      Path.isAbsolute s.normalized = Path.isAbsolute s.location ∧
      { s with location := s.normalized }.normalized = s.normalized := by
  have reduced := Path.Normal.reduced_ofPath s.location
  have again : Path.Normal.ofPath s.normalized = Path.Normal.ofPath s.location :=
    reduced.ofPath_text
  have rooted : (Path.Normal.ofPath s.location).absolute = Path.isAbsolute s.location :=
    Path.Normal.absolute_foldl_take ..
  refine ⟨reduced.canonical, fun place => ?_, ?_, congrArg Path.Normal.text again⟩
  · rw [← Path.Normal.lead_ofPath, again, Path.Normal.lead_ofPath]
  · exact reduced.isAbsolute_text.trans rooted

end RuleCatalog
