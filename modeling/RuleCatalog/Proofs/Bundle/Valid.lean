import Mathlib.Data.List.Nodup
import Mathlib.Tactic.SplitIfs
import RuleCatalog.Bundle.Manifest

/-! # Valid manifests

The checks that a manifest has to pass, one after another, come to this: both names of the bundle
are well formed, so is the version, and the files of each kind have plain names, which differ, and a
digest each.
-/

namespace RuleCatalog

theorem BundleId.checkPart_eq_ok_iff {part : Part} {value : String} :
    checkPart part value = .ok () ↔ Text.isBlankText value = false ∧ '/' ∉ value.toList := by
  cases blank : Text.isBlankText value <;> simp [checkPart, blank]

namespace Manifest

/-- A name that stands for a file directly inside a directory. -/
structure PlainName (name : String) : Prop where
  nonempty : name ≠ ""
  noSlash : '/' ∉ name.toList
  noBackslash : '\\' ∉ name.toList
  notHere : name ≠ "."
  notAbove : name ≠ ".."

theorem isPlainName_iff {name : String} : isPlainName name = true ↔ PlainName name := by
  have differs (other : String) : name.toList ≠ other.toList ↔ name ≠ other :=
    not_congr String.toList_inj
  simp only [isPlainName, Bool.and_eq_true, Bool.not_eq_true', List.isEmpty_eq_false_iff,
    List.contains_eq_mem, decide_eq_false_iff_not, bne_iff_ne]
  constructor
  · rintro ⟨⟨⟨⟨nonempty, noSlash⟩, noBackslash⟩, notHere⟩, notAbove⟩
    exact ⟨(differs "").mp nonempty, noSlash, noBackslash, (differs ".").mp notHere,
      (differs "..").mp notAbove⟩
  · rintro ⟨nonempty, noSlash, noBackslash, notHere, notAbove⟩
    exact ⟨⟨⟨⟨(differs "").mpr nonempty, noSlash⟩, noBackslash⟩, (differs ".").mpr notHere⟩,
      (differs "..").mpr notAbove⟩

/-- A file that may be listed after those with the names `seen`. -/
structure Listable (seen : List String) (f : ManifestFile) : Prop where
  plain : PlainName f.name
  fresh : f.name ∉ seen
  digest : ∃ digest, f.sha256? = some digest

theorem listable_cons {name : String} {seen : List String} {f : ManifestFile} :
    Listable (name :: seen) f ↔ f.name ≠ name ∧ Listable seen f := by
  constructor
  · rintro ⟨plain, fresh, digest⟩
    rw [List.mem_cons, not_or] at fresh
    exact ⟨fresh.1, plain, fresh.2, digest⟩
  · rintro ⟨other, plain, fresh, digest⟩
    exact ⟨plain, fun member => (List.mem_cons.mp member).elim other fresh, digest⟩

theorem checkFiles_eq_ok_iff {folder : Folder} {seen : List String} {files : List ManifestFile} :
    checkFiles folder seen files = .ok () ↔
      (∀ f ∈ files, Listable seen f) ∧ (files.map (·.name)).Nodup := by
  induction files generalizing seen with
  | nil => simp [checkFiles]
  | cons f files ih =>
    rw [List.forall_mem_cons, List.map_cons, List.nodup_cons, checkFiles]
    split_ifs with notPlain known missing
    · refine iff_of_false id ?_
      rintro ⟨⟨here, -⟩, -⟩
      rw [isPlainName_iff.mpr here.plain] at notPlain
      cases notPlain
    · refine iff_of_false id ?_
      rintro ⟨⟨here, -⟩, -⟩
      exact here.fresh (List.contains_iff_mem.mp known)
    · refine iff_of_false id ?_
      rintro ⟨⟨here, -⟩, -⟩
      obtain ⟨digest, given⟩ := here.digest
      rw [given] at missing
      cases missing
    · have here : Listable seen f := by
        refine ⟨isPlainName_iff.mp (by simpa using notPlain), by simpa using known, ?_⟩
        exact Option.ne_none_iff_exists'.mp fun absent => missing (by rw [absent]; rfl)
      -- a later file with the name of this one would be known by then
      have later : (∀ g ∈ files, Listable (f.name :: seen) g) ↔
          (∀ g ∈ files, Listable seen g) ∧ f.name ∉ files.map (·.name) := by
        simp only [listable_cons, List.mem_map, not_exists, not_and]
        rw [and_comm, ← forall₂_and]
      rw [ih, later, and_iff_right here, and_assoc]

theorem mem_listed_iff {m : Manifest} {folder : Folder} {f : ManifestFile} :
    (folder, f) ∈ m.listed ↔ f ∈ m.files folder := by
  cases folder <;> simp [listed, files]

/-- A manifest as it should be. -/
structure Valid (m : Manifest) : Prop where
  space : Text.isBlankText m.metadata.space = false ∧ '/' ∉ m.metadata.space.toList
  name : Text.isBlankText m.metadata.name = false ∧ '/' ∉ m.metadata.name.toList
  version : ∃ v, Version.parse m.metadata.version = .ok v
  plain : ∀ folder, ∀ f ∈ m.files folder, PlainName f.name
  distinct : ∀ folder, ((m.files folder).map (·.name)).Nodup
  digests : ∀ folder, ∀ f ∈ m.files folder, ∃ digest, f.sha256? = some digest

theorem Valid.digest_listed {m : Manifest} (valid : m.Valid) {listed : Folder × ManifestFile}
    (member : listed ∈ m.listed) : ∃ digest, listed.2.sha256? = some digest :=
  valid.digests listed.1 listed.2 (mem_listed_iff.mp member)

/-- The checks that a manifest has to pass. -/
theorem check_eq_ok_iff_checks {m : Manifest} : m.check = .ok () ↔
    BundleId.checkPart .space m.metadata.space = .ok () ∧
      BundleId.checkPart .name m.metadata.name = .ok () ∧
      (∃ v, Version.parse m.metadata.version = .ok v) ∧
      checkFiles .profiles [] m.profiles = .ok () ∧
      checkFiles .ruleTypes [] m.ruleTypes = .ok () := by
  cases space : BundleId.checkPart .space m.metadata.space <;>
  cases name : BundleId.checkPart .name m.metadata.name <;>
  cases version : Version.parse m.metadata.version <;>
  cases profiles : checkFiles .profiles [] m.profiles <;>
    simp [check, BundleId.make, space, name, version, profiles, bind, Except.bind, pure,
      Except.pure, throw, throwThe, MonadExceptOf.throw]

/-- A manifest passes all checks if and only if it is valid. -/
theorem check_eq_ok_iff {m : Manifest} : m.check = .ok () ↔ m.Valid := by
  rw [check_eq_ok_iff_checks, BundleId.checkPart_eq_ok_iff, BundleId.checkPart_eq_ok_iff,
    checkFiles_eq_ok_iff, checkFiles_eq_ok_iff]
  constructor
  · rintro ⟨space, name, version, ⟨profiles, distinctProfiles⟩, ruleTypes, distinctRuleTypes⟩
    have listable (folder : Folder) : ∀ f ∈ m.files folder, Listable [] f := by
      cases folder
      · exact profiles
      · exact ruleTypes
    have distinct (folder : Folder) : ((m.files folder).map (·.name)).Nodup := by
      cases folder
      · exact distinctProfiles
      · exact distinctRuleTypes
    exact ⟨space, name, version, fun folder f member => (listable folder f member).plain, distinct,
      fun folder f member => (listable folder f member).digest⟩
  · intro valid
    have listable (folder : Folder) : ∀ f ∈ m.files folder, Listable [] f := fun f member =>
      ⟨valid.plain folder f member, List.not_mem_nil, valid.digests folder f member⟩
    exact ⟨valid.space, valid.name, valid.version, ⟨listable .profiles, valid.distinct .profiles⟩,
      listable .ruleTypes, valid.distinct .ruleTypes⟩

end Manifest

end RuleCatalog
