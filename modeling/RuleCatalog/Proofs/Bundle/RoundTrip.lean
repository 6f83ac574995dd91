import RuleCatalog.Proofs.Bundle.Contents
import RuleCatalog.Proofs.Bundle.Manifest
import RuleCatalog.Proofs.Result

/-! # Bundles packed and loaded

A bundle that was packed from parts is loaded again with the manifest of the parts, and every
document in it is read from the bytes that were given for its file. Names and contents do not
matter: whatever can be packed comes back.
-/

namespace RuleCatalog

theorem Digest.sameIgnoringCase_refl (s : String) : sameIgnoringCase s s = true :=
  beq_self_eq_true _

theorem ManifestFile.sha256?_ofContent (name : String) (content : ByteArray) :
    (ofContent name content).sha256? = some (Digest.sha256Hex content) := by
  simp [sha256?, ofContent]

namespace BundleParts

variable {p : BundleParts} {file : ByteArray}

/-! ## What was packed -/

theorem sorted_manifest : p.manifest.Sorted := by
  intro f listed
  have hashes : f.hashes.map Prod.fst = [ManifestFile.algorithm] := by
    obtain profile | ruleType := List.mem_append.mp listed
    · obtain ⟨given, -, rfl⟩ := List.mem_map.mp profile
      rfl
    · obtain ⟨given, -, rfl⟩ := List.mem_map.mp ruleType
      rfl
  rw [hashes]
  exact List.pairwise_singleton ..

/-- The files of the bundle in the archive. -/
def packedContents (p : BundleParts) : Bundle.Contents :=
  .ofEntries (p.packedFiles.map Archive.PackedFile.entry)

/-- Parts are packed if their manifest is valid and every file can be stored. -/
theorem pack_eq_ok_iff : p.pack = .ok file ↔ p.manifest.check = .ok () ∧
    ∃ bytes, Archive.ofFiles p.packedFiles = .ok bytes ∧
      ⟨(Archive.Gzip.pack bytes).toArray⟩ = file := by
  rw [pack, archive]
  cases valid : p.manifest.check with
  | error flaw => exact ⟨nofun, nofun⟩
  | ok =>
    cases archived : Archive.ofFiles p.packedFiles with
    | error path => exact ⟨nofun, nofun⟩
    | ok bytes =>
      exact ⟨fun packed => ⟨rfl, bytes, rfl, Except.ok.inj packed⟩,
        fun ⟨_, _, same, packed⟩ => Except.ok.inj same ▸ congrArg _ packed⟩

/-- Parts with a valid manifest are packed if its text and all other files can be stored. -/
theorem exists_pack (valid : p.manifest.check = .ok ())
    (short : ((Json.writePretty 0 p.manifest.toValue).flatMap String.utf8EncodeChar).length <
      Archive.Field.bound)
    (others : ∀ f ∈ p.packedFiles.tail, f.storable) : ∃ file, p.pack = .ok file := by
  have manifest : (Archive.PackedFile.mk Manifest.fileName
      (Archive.textBytes p.manifest.toJson)).storable := Archive.storable_text (by decide) short
  have archived := Archive.ofFiles_eq_ok_iff.mpr ⟨List.forall_mem_cons.mpr ⟨manifest, others⟩, rfl⟩
  exact ⟨_, pack_eq_ok_iff.mpr ⟨valid, _, archived, rfl⟩⟩

/-- The archive in a packed file holds the files that were put into it. -/
theorem entries_pack (packed : p.pack = .ok file) :
    Archive.entries (Archive.Gzip.unpack file.data.toList) =
      some (p.packedFiles.map Archive.PackedFile.entry) := by
  obtain ⟨-, bytes, archived, rfl⟩ := pack_eq_ok_iff.mp packed
  exact Bundle.entries_unpack_pack archived

theorem contentOf_packed (valid : p.manifest.check = .ok ()) {folder : Folder} {name : String}
    {content : ByteArray} (given : (name, content) ∈ p.files folder) :
    Bundle.contentOf p.packedContents folder (.ofContent name content) = .ok content := by
  have present : ([folder.name, name], content) ∈ p.contents := by
    have there : ([folder.name, name], content) ∈ p.located folder :=
      List.mem_map.mpr ⟨_, given, rfl⟩
    rw [contents, List.mem_cons, List.mem_append]
    cases folder
    · exact .inr (.inl there)
    · exact .inr (.inr there)
  simp only [Bundle.contentOf, Bundle.pathOf, ManifestFile.ofContent, packedContents,
    get?_packed valid present]

/-! ## Loading -/

theorem mem_listed {folder : Folder} {f : ManifestFile} (listed : (folder, f) ∈ p.manifest.listed) :
    ∃ name content, (name, content) ∈ p.files folder ∧ f = .ofContent name content := by
  have given : f ∈ p.manifest.files folder := by
    rw [Manifest.listed, List.mem_append, List.mem_map, List.mem_map] at listed
    obtain ⟨g, given, same⟩ | ⟨g, given, same⟩ := listed <;>
    · cases same
      exact given
  rw [files_manifest, entriesFor, List.mem_map] at given
  obtain ⟨⟨name, content⟩, given, rfl⟩ := given
  exact ⟨name, content, given, rfl⟩

/-- Every file in the archive is the one that was listed. -/
theorem checkFile_packed (valid : p.manifest.check = .ok ()) {listed : Folder × ManifestFile}
    (member : listed ∈ p.manifest.listed) :
    Bundle.checkFile p.packedContents listed = .ok () := by
  obtain ⟨folder, f⟩ := listed
  obtain ⟨name, content, given, rfl⟩ := mem_listed member
  simp only [Bundle.checkFile, contentOf_packed valid given, ManifestFile.sha256?_ofContent,
    Option.getD_some, bind, Except.bind, Digest.sameIgnoringCase_refl, if_true]
  rfl

/-- The bundle in a packed archive. -/
theorem ofArchive_eq (packed : p.pack = .ok file) :
    Bundle.ofArchive file = .ok ⟨p.manifest.told, p.packedContents⟩ := by
  obtain ⟨valid, -⟩ := pack_eq_ok_iff.mp packed
  have top : p.packedContents.get? [Manifest.fileName] = some p.manifest.toJson.toUTF8 :=
    get?_packed valid List.mem_cons_self
  -- the manifest is at the top, so no other directory is looked at, whatever files are called
  have rooted : p.packedContents.rooted = .ok p.packedContents := by
    rw [Bundle.Contents.rooted, top]
    rfl
  -- the date is neither checked nor does it tell which files there are
  have validAlso : p.manifest.told.check = .ok () := valid
  have intact : p.manifest.told.listed.forM (Bundle.checkFile p.packedContents) = .ok () :=
    forM_eq_ok_iff.mpr fun _ => checkFile_packed valid
  rw [Bundle.ofArchive, entries_pack packed]
  simp only [Bundle.ofEntries]
  rw [← packedContents, Bundle.ofContents, rooted]
  simp only [bind, Except.bind, top, pure, Except.pure, Manifest.ofBytes_toJson sorted_manifest,
    Except.mapError, validAlso, intact]

end BundleParts

end RuleCatalog
