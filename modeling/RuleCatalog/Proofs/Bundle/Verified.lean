import RuleCatalog.Proofs.Bundle.Intact

/-! # What a bundle hands out

A bundle checks its files when it is loaded and reads them when it is asked for a document. Both go
to the same content: whatever is handed out was read from a file of the archive that has the listed
digest, and a document can only turn out to be broken, not to be missing or another one.
-/

namespace RuleCatalog.Bundle

open Archive (Entry)

variable {α : Type} {entries : List Entry} {root : FilePath} {folder : Folder} {f : ManifestFile}
  {b : Bundle} {read : ByteArray → Except Yaml.Error α}

/-- What is handed out for a listed file comes from its verified content: the document, or that it
is broken. -/
inductive HandedOut (entries : List Entry) (root : FilePath)
    (read : ByteArray → Except Yaml.Error α) (folder : Folder) (f : ManifestFile) :
    Except Error α → Prop
  | document {content a} (verified : Verified entries root (folder, f) content)
      (isRead : read content = .ok a) : HandedOut entries root read folder f (.ok a)
  | broken {content reason} (verified : Verified entries root (folder, f) content)
      (isBroken : read content = .error reason) :
      HandedOut entries root read folder f (.error (.brokenDocument (folder.path f.name) reason))

/-- What the lookup of a profile gives: it is not listed, or it is the first one that goes by the
name. -/
inductive ProfileHandedOut (entries : List Entry) (root : FilePath) (m : Manifest) (name : String) :
    Except Error Profile → Prop
  | unlisted (absent : ∀ f ∈ m.profiles, Manifest.goesBy name f = false) :
      ProfileHandedOut entries root m name (.error (.noProfile name))
  | listed {before f after item} (split : m.profiles = before ++ f :: after)
      (first : ∀ other ∈ before, Manifest.goesBy name other = false)
      (named : Manifest.goesBy name f = true)
      (handedOut : HandedOut entries root Profile.ofYaml .profiles f item) :
      ProfileHandedOut entries root m name item

theorem handedOut_document (found : ∀ path content, b.files.get? path = some content ↔
      LastAt entries (root ++ path) content)
    (asListed : AsListed entries root (folder, f)) :
    HandedOut entries root read folder f (b.document read folder f) := by
  obtain ⟨content, verified⟩ := asListed
  have there := (found _ _).mpr verified.last
  simp only [document, contentOf, there, bind, Except.bind]
  cases isRead : read content with
  | ok a => exact .document verified isRead
  | error reason => exact .broken verified isRead

theorem profileHandedOut_profile
    (handedOut : ∀ f ∈ b.manifest.profiles,
      HandedOut entries root Profile.ofYaml .profiles f (b.document Profile.ofYaml .profiles f))
    (name : String) : ProfileHandedOut entries root b.manifest name (b.profile name) := by
  rw [profile]
  cases named : b.manifest.profile? name with
  | none =>
    have others := List.find?_eq_none.mp named
    exact .unlisted fun f member => Bool.eq_false_iff.mpr (others f member)
  | some f =>
    obtain ⟨goesBy, before, after, split, first⟩ := List.find?_eq_some_iff_append.mp named
    have noneBefore : ∀ other ∈ before, Manifest.goesBy name other = false :=
      fun other earlier => by simpa using first other earlier
    exact .listed split noneBefore goesBy (handedOut f (List.mem_of_find?_eq_some named))

/-- Every bundle that was loaded hands out what was verified: one item for each listed rule type, in
the order of the manifest, and for a name the profile that goes by it. -/
theorem hands_out_verified {file : ByteArray} (loaded : ofArchive file = .ok b) :
    ∃ entries root, Archive.entries (Archive.Gzip.unpack file.data.toList) = some entries ∧
      Announces entries root b.manifest ∧
      List.Forall₂ (HandedOut entries root RuleType.ofYaml .ruleTypes) b.manifest.ruleTypes
        b.ruleTypes ∧
      ∀ name, ProfileHandedOut entries root b.manifest name (b.profile name) := by
  rw [ofArchive] at loaded
  cases readable : Archive.entries (Archive.Gzip.unpack file.data.toList) with
  | none =>
    rw [readable] at loaded
    cases loaded
  | some entries =>
    rw [readable] at loaded
    obtain ⟨root, m, announced, rfl⟩ := announces_of_loaded loaded
    have asListed := (ofEntries_eq_ok_iff announced).mp loaded
    have handedOut {α : Type} (read : ByteArray → Except Yaml.Error α) (folder : Folder)
        (f : ManifestFile) (member : f ∈ m.files folder) :
        HandedOut entries root read folder f
          (document ⟨m, filesAt entries root⟩ read folder f) :=
      handedOut_document (fun _ _ => get?_filesAt_eq_some_iff)
        (asListed (folder, f) (Manifest.mem_listed_iff.mpr member))
    refine ⟨entries, root, rfl, announced, ?_, ?_⟩
    · rw [ruleTypes, List.forall₂_map_right_iff, List.forall₂_same]
      exact handedOut RuleType.ofYaml .ruleTypes
    · exact profileHandedOut_profile (handedOut Profile.ofYaml .profiles)

theorem hands_out_verified_supplanted : ∃ file b entries root, ofArchive file = .ok b ∧
    b.manifest = capital ∧ b.ruleTypes = [.ok (.named "r1")] ∧
    List.Forall₂ (HandedOut entries root RuleType.ofYaml .ruleTypes) capital.ruleTypes
      b.ruleTypes ∧
    ProfileHandedOut entries root capital "p1" (b.profile "p1") := by
  obtain ⟨file, readable⟩ := readable_supplanted
  have loaded : ofArchive file =
      .ok ⟨capital, filesAt supplantedEntries ["pack"]⟩ := by
    rw [ofArchive, readable]
    exact (ofEntries_eq_ok_iff announces_supplanted).mpr asListed_supplanted
  have decoded : (RuleType.ofYaml "name: r1".toUTF8).toOption = some (.named "r1") := by
    decide +kernel
  have given : Bundle.ruleTypes ⟨capital, filesAt supplantedEntries ["pack"]⟩ =
      [(RuleType.ofYaml "name: r1".toUTF8).mapError (.brokenDocument "rule_types/r1")] := rfl
  rw [eq_ok_of_toOption decoded] at given
  obtain ⟨entries, root, -, -, ruleTypes, profiles⟩ := hands_out_verified loaded
  exact ⟨file, _, entries, root, loaded, rfl, given, ruleTypes, profiles "p1"⟩

end RuleCatalog.Bundle
