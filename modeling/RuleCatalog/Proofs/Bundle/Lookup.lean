import Mathlib.Data.List.Nodup
import RuleCatalog.Bundle.Basic
import RuleCatalog.Proofs.Bundle.Valid

/-! # Looking up profiles by name

A profile goes by the name of its file and by this name without the ending of YAML files, and of
several files that go by a name the first one listed is found. So a file is found by its own name
unless the file of this name with an ending is listed before it, and it hides a file of the shorter
name if that one is listed after it.
-/

namespace RuleCatalog.Manifest

variable {m : Manifest} {f g : ManifestFile} {name : String} {before after : List ManifestFile}

/-! ## Endings -/

/-- The name of a file is a given one followed by the ending of YAML files. -/
def WithEnding (name : String) (f : ManifestFile) : Prop :=
  f.name = name ++ ".yaml" ∨ f.name = name ++ ".yml"

theorem withoutEnding?_eq_some_iff {ending text start : List Char} :
    withoutEnding? ending text = some start ↔ text = start ++ ending := by
  rw [withoutEnding?]
  split_ifs with ends
  · obtain ⟨front, rfl⟩ := List.isSuffixOf_iff_suffix.mp ends
    rw [List.length_append, Nat.add_sub_cancel, List.take_left, Option.some_inj,
      List.append_left_inj]
  · refine iff_of_false nofun ?_
    rintro rfl
    exact ends (List.isSuffixOf_iff_suffix.mpr (List.suffix_append _ _))

/-- No name has both endings, so it does not matter which one is tried first. -/
theorem stem?_eq_some_iff {file : String} :
    stem? file = some name ↔ file = name ++ ".yaml" ∨ file = name ++ ".yml" := by
  have written (ending : String) : withoutEnding? ending.toList file.toList = some name.toList ↔
      file = name ++ ending := by
    rw [withoutEnding?_eq_some_iff, ← String.toList_append, String.toList_inj]
  have noOther : file = name ++ ".yml" → withoutEnding? ".yaml".toList file.toList = none := by
    rintro rfl
    refine Option.eq_none_iff_forall_ne_some.mpr fun start found => ?_
    have reversed := congrArg List.reverse (withoutEnding?_eq_some_iff.mp found)
    simp at reversed
  have stem : stem? file = some name ↔
      (withoutEnding? ".yaml".toList file.toList).or (withoutEnding? ".yml".toList file.toList) =
        some name.toList := by
    rw [stem?, Option.map_eq_some_iff]
    constructor
    · rintro ⟨start, found, rfl⟩
      rw [found, String.toList_ofList]
    · intro found
      exact ⟨_, found, String.ofList_toList⟩
  rw [stem, Option.or_eq_some_iff, written, written]
  exact or_congr_right ⟨And.right, fun ending => ⟨noOther ending, ending⟩⟩

theorem goesBy_iff : goesBy name f = true ↔ f.name = name ∨ WithEnding name f := by
  simp [goesBy, stem?_eq_some_iff, WithEnding]

/-! ## Looking up -/

/-- What is found is the first file that goes by the name. -/
theorem profile?_eq_some_iff : m.profile? name = some f ↔
    (f.name = name ∨ WithEnding name f) ∧
      ∃ before after, m.profiles = before ++ f :: after ∧
        ∀ g ∈ before, g.name ≠ name ∧ ¬WithEnding name g := by
  rw [profile?, List.find?_eq_some_iff_append, goesBy_iff]
  simp only [Bool.not_eq_true', ← Bool.not_eq_true, goesBy_iff, not_or]

/-- Where a file of a valid manifest stands it stands alone, and no file before it has its name. -/
theorem names_before_ne (valid : m.Valid) (listed : m.profiles = before ++ f :: after) :
    ∀ g ∈ before, g.name ≠ f.name := by
  have distinct := valid.distinct .profiles
  rw [files, listed, List.map_append, List.map_cons, List.nodup_append] at distinct
  intro g member
  exact distinct.2.2 g.name (List.mem_map_of_mem member) f.name List.mem_cons_self

theorem before_unique (valid : m.Valid) (listed : m.profiles = before ++ f :: after)
    {before' after' : List ManifestFile} (listed' : m.profiles = before' ++ f :: after') :
    before' = before := by
  have distinct : m.profiles.Nodup := (valid.distinct .profiles).of_map
  rw [listed, List.nodup_middle, List.nodup_cons, List.mem_append, not_or] at distinct
  exact ((List.append_cons_inj_of_notMem distinct.1.1 distinct.1.2).mp
    (listed.symm.trans listed')).1.symm

/-- A file is found by its own name unless one with an ending to it is listed before. -/
theorem profile?_name_iff (valid : m.Valid) (listed : m.profiles = before ++ f :: after) :
    m.profile? f.name = some f ↔ ∀ g ∈ before, ¬WithEnding f.name g := by
  rw [profile?_eq_some_iff]
  constructor
  · rintro ⟨-, before', after', listed', others⟩ g member
    obtain rfl := before_unique valid listed listed'
    exact (others g member).2
  · intro unhidden
    refine ⟨.inl rfl, before, after, listed, fun g member => ?_⟩
    exact ⟨names_before_ne valid listed g member, unhidden g member⟩

/-- In a valid manifest a file is found by its name if and only if no file that has this name with
an ending is listed before it, and a bundle then reads the profile in this very file. By a name
without its ending a file is found only if no file listed before it has exactly this name. -/
theorem found_by_name_iff (valid : m.check = .ok ()) :
    (∀ before f after, m.profiles = before ++ f :: after →
      (m.profile? f.name = some f ↔ ∀ g ∈ before, ¬WithEnding f.name g) ∧
      ∀ b : Bundle, b.manifest = m → (∀ g ∈ before, ¬WithEnding f.name g) →
        b.profile f.name = b.document Profile.ofYaml .profiles f) ∧
    ∀ name f, m.profile? name = some f → f.name ≠ name → WithEnding name f ∧
      ∃ before after, m.profiles = before ++ f :: after ∧ ∀ g ∈ before, g.name ≠ name := by
  constructor
  · intro before f after listed
    have found_iff := profile?_name_iff (check_eq_ok_iff.mp valid) listed
    refine ⟨found_iff, ?_⟩
    rintro b rfl unhidden
    rw [Bundle.profile, found_iff.mpr unhidden]
  · intro name f found other
    obtain ⟨goesBy, before, after, listed, first⟩ := profile?_eq_some_iff.mp found
    exact ⟨goesBy.resolve_left other, before, after, listed, fun g member => (first g member).1⟩

/-- Profiles in files one of which has the name of another one with an ending. -/
def twoEndings (first second : String) : Manifest :=
  let file (name : String) : ManifestFile := ⟨name, [("sha-256", "00")]⟩
  ⟨⟨"a", "b", "1.0.0", none⟩, [file first, file second], []⟩

theorem found_by_name_iff_ownFirst : (twoEndings "p" "p.yaml").check = .ok () ∧
    ((twoEndings "p" "p.yaml").profile? "p.yaml").map ManifestFile.name = some "p.yaml" := by
  have valid : (twoEndings "p" "p.yaml").check = .ok () := by decide +kernel
  have found := ((found_by_name_iff valid).1 [_] _ [] rfl).1.mpr (by simp [WithEnding])
  exact ⟨valid, congrArg (Option.map ManifestFile.name) found⟩

/-- A file that is listed after one with an ending to its name is not found by its name. -/
theorem profile?_hidden : ∃ f ∈ (twoEndings "p.yaml" "p").profiles,
    (twoEndings "p.yaml" "p").check = .ok () ∧
      (twoEndings "p.yaml" "p").profile? f.name ≠ some f := by
  refine ⟨_, List.mem_cons_of_mem _ List.mem_cons_self, ?_, ?_⟩ <;> decide +kernel

end RuleCatalog.Manifest
