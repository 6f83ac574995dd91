import RuleCatalog.Proofs.Bundle.Intact
import RuleCatalog.Proofs.Bundle.Reread
import RuleCatalog.Proofs.FileTree.Relisted
import RuleCatalog.Proofs.Text.Order

/-! # Bundles gathered from a directory

A bundle that is packed from a directory has exactly the files that can be read there, ordered by
the bytes of their names. The manifest in the directory only gives the metadata, and the order in
which directories list their entries does not matter.
-/

namespace RuleCatalog

namespace BundleParts

variable {disk disk' : Disk} {directory path name : String} {content : ByteArray}
  {entries : List (FileName × FileTree)} {files : List NamedFile}

/-! ## Files in a directory -/

theorem isFile_iff : isFile disk path = true ↔ ∃ content, disk.read path = .ok content := by
  rw [isFile, Disk.read]
  cases disk.find path with
  | error e => simp [bind, Except.bind]
  | ok t => cases t <;> simp [bind, Except.bind, pure, Except.pure]

/-- Only the names of the entries tell which files there are. -/
theorem fileNames_eq (disk : Disk) (directory : String) (entries : List (FileName × FileTree)) :
    fileNames disk directory entries = ((entries.map Prod.fst).filterMap FileName.text?).filter
      fun name => isFile disk (Path.join directory name) := by
  rw [List.filterMap_map]
  rfl

theorem mem_fileNames : name ∈ fileNames disk directory entries ↔
    FileName.ofString name ∈ entries.map Prod.fst ∧
      isFile disk (Path.join directory name) = true := by
  have listed : name ∈ (entries.map Prod.fst).filterMap FileName.text? ↔
      FileName.ofString name ∈ entries.map Prod.fst := by
    rw [List.mem_filterMap]
    simp only [Bundle.FilePath.text?_eq_some_iff]
    exact exists_eq_right
  rw [fileNames_eq, List.mem_filter, listed]

/-- A file with what is read from it. -/
def fileAt (disk : Disk) (directory name : String) : NamedFile :=
  (name, (disk.read (Path.join directory name)).toOption.getD .empty)

/-- Files in the order of their names. -/
def byName (files : List NamedFile) : List NamedFile := files.mergeSort fun a b => !(b.1 < a.1)

theorem filesIn_of_list (there : disk.list directory = .ok entries) :
    filesIn disk directory =
      .ok (byName ((fileNames disk directory entries).map (fileAt disk directory))) := by
  have read : ∀ name ∈ fileNames disk directory entries,
      (do return (name, ← (disk.read (Path.join directory name)).mapError
        (GatherError.unreadableFile (Path.join directory name))) : Except GatherError NamedFile) =
          .ok (fileAt disk directory name) := by
    intro name member
    obtain ⟨content, read⟩ := isFile_iff.mp (mem_fileNames.mp member).2
    rw [fileAt, read]
    rfl
  rw [filesIn, if_pos (Disk.contains_of_list there), there]
  simp only [Except.mapError, bind, Except.bind] at read ⊢
  rw [mapM_ok read]
  rfl

theorem filesIn_of_not_contains (missing : disk.contains directory = false) :
    filesIn disk directory = .ok [] := by
  rw [filesIn, missing, if_neg Bool.false_ne_true]

/-- Files are gathered from a directory that can be listed, or there is no directory. -/
theorem filesIn_eq_ok_iff : filesIn disk directory = .ok files ↔
    (disk.contains directory = false ∧ files = []) ∨
      ∃ entries, disk.list directory = .ok entries ∧
        files = byName ((fileNames disk directory entries).map (fileAt disk directory)) := by
  constructor
  · intro gathered
    cases contained : disk.contains directory with
    | false =>
      rw [filesIn_of_not_contains contained] at gathered
      exact .inl ⟨rfl, (Except.ok.inj gathered).symm⟩
    | true =>
      cases there : disk.list directory with
      | error e =>
        rw [filesIn, if_pos contained, there] at gathered
        cases gathered
      | ok entries =>
        rw [filesIn_of_list there] at gathered
        exact .inr ⟨entries, rfl, (Except.ok.inj gathered).symm⟩
  · rintro (⟨missing, rfl⟩ | ⟨entries, there, rfl⟩)
    · exact filesIn_of_not_contains missing
    · exact filesIn_of_list there

theorem mem_filesIn (gathered : filesIn disk directory = .ok files) :
    (name, content) ∈ files ↔ disk.HasFile directory name content := by
  rcases filesIn_eq_ok_iff.mp gathered with ⟨missing, rfl⟩ | ⟨entries, there, rfl⟩
  · refine iff_of_false List.not_mem_nil ?_
    rintro ⟨⟨entries, there, -⟩, -⟩
    exact Bool.false_ne_true (missing.symm.trans (Disk.contains_of_list there))
  · rw [byName, List.mem_mergeSort, List.mem_map]
    constructor
    · rintro ⟨name, member, same⟩
      obtain ⟨listed, isFile⟩ := mem_fileNames.mp member
      obtain ⟨content, read⟩ := isFile_iff.mp isFile
      rw [fileAt, read] at same
      obtain ⟨rfl, rfl⟩ := Prod.mk.inj same
      exact ⟨⟨entries, there, listed⟩, read⟩
    · rintro ⟨⟨entries', there', listed⟩, read⟩
      obtain rfl : entries = entries' := Except.ok.inj (there.symm.trans there')
      refine ⟨name, mem_fileNames.mpr ⟨listed, isFile_iff.mpr ⟨content, read⟩⟩, ?_⟩
      rw [fileAt, read]
      rfl

theorem pairwise_byName (files : List NamedFile) : (byName files).Pairwise (·.1 ≤ ·.1) := by
  have ordered (a b : NamedFile) : (!decide (b.1 < a.1)) = true ↔ a.1 ≤ b.1 := by
    simp only [Bool.not_eq_true', decide_eq_false_iff_not, not_lt]
  have sorted : (byName files).Pairwise fun a b => (!decide (b.1 < a.1)) = true :=
    List.pairwise_mergeSort
      (fun a b c => by
        simp only [ordered]
        exact le_trans)
      (fun a b => by
        simp only [Bool.or_eq_true, ordered]
        exact le_total a.1 b.1) files
  exact sorted.imp (ordered _ _).mp

/-- Files without a name that comes twice are in the strict order of the bytes of their names. -/
theorem ascending_filesIn (gathered : filesIn disk directory = .ok files)
    (distinct : (files.map Prod.fst).Nodup) :
    (files.map fun f => f.1.toUTF8.data.toList).Pairwise (· < ·) := by
  have ordered : files.Pairwise (·.1 ≤ ·.1) := by
    rcases filesIn_eq_ok_iff.mp gathered with ⟨-, rfl⟩ | ⟨entries, -, rfl⟩
    · exact .nil
    · exact pairwise_byName _
  refine List.pairwise_map.mpr ?_
  refine (ordered.and (List.pairwise_map.mp distinct)).imp ?_
  rintro a b ⟨le, apart⟩
  exact Text.lt_iff_bytes_lt.mp (lt_of_le_of_ne le apart)

/-! ## Orders of listing -/

theorem isFile_relisted (relisted : disk.Relisted disk') (path : String) :
    isFile disk path = isFile disk' path := by
  rw [Bool.eq_iff_iff, isFile_iff, isFile_iff, Disk.read_relisted relisted]

theorem fileNames_perm {others : List (FileName × FileTree)}
    (names : (entries.map Prod.fst).Perm (others.map Prod.fst)) (disk : Disk)
    (directory : String) :
    (fileNames disk directory entries).Perm (fileNames disk directory others) := by
  rw [fileNames_eq, fileNames_eq]
  exact (names.filterMap _).filter _

/-- Files in the order of their names are in the same order, whatever order they come from. -/
theorem byName_perm {names names' : List String} (perm : names.Perm names') (disk : Disk)
    (directory : String) :
    byName (names.map (fileAt disk directory)) = byName (names'.map (fileAt disk directory)) := by
  have same : (byName (names.map (fileAt disk directory))).Perm
      (byName (names'.map (fileAt disk directory))) :=
    (List.mergeSort_perm ..).trans
      ((perm.map _).trans (List.mergeSort_perm ..).symm)
  refine same.eq_of_pairwise ?_ (pairwise_byName _) (pairwise_byName _)
  intro a b left right first second
  obtain ⟨name, -, rfl⟩ := List.mem_map.mp (List.mem_mergeSort.mp left)
  obtain ⟨name', -, rfl⟩ := List.mem_map.mp (List.mem_mergeSort.mp right)
  exact congrArg (fileAt disk directory) (le_antisymm first second)

theorem filesIn_relisted (relisted : disk.Relisted disk') (directory : String) :
    filesIn disk directory = filesIn disk' directory := by
  have listed := Disk.list_relisted relisted directory
  cases there : disk.list directory with
  | error e =>
    rw [there] at listed
    rw [filesIn, filesIn, Disk.contains_relisted relisted, there, listed.eq_error]
    rfl
  | ok entries =>
    rw [there] at listed
    obtain ⟨others, there', names⟩ := listed.exists_ok
    have read : fileAt disk directory = fileAt disk' directory := by
      funext name
      rw [fileAt, fileAt, Disk.read_relisted relisted]
    have isFile : isFile disk = isFile disk' := funext (isFile_relisted relisted)
    rw [filesIn_of_list there, filesIn_of_list there', read, fileNames_eq, isFile, ← fileNames_eq]
    exact congrArg Except.ok (byName_perm (fileNames_perm names disk' directory) ..)

theorem ofDirectory_relisted (relisted : disk.Relisted disk') (directory : String) :
    ofDirectory disk directory = ofDirectory disk' directory := by
  simp only [ofDirectory, Disk.readText_relisted relisted, filesIn_relisted relisted]

/-! ## What is gathered -/

variable {p : BundleParts} {file : ByteArray}

/-- From the manifest in the directory only the metadata is taken. -/
theorem ofDirectory_eq_ok_iff : ofDirectory disk directory = .ok p ↔
    (∃ text m, disk.readText (Path.join directory Manifest.fileName) = .ok text ∧
      Manifest.ofJson text = .ok m ∧ m.metadata = p.metadata) ∧
    ∀ folder : Folder, filesIn disk (Path.join directory folder.name) = .ok (p.files folder) := by
  constructor
  · intro gathered
    rw [ofDirectory] at gathered
    obtain ⟨text, read, gathered⟩ := bind_eq_ok_iff.mp gathered
    obtain ⟨m, parsed, gathered⟩ := bind_eq_ok_iff.mp gathered
    obtain ⟨profiles, gatheredProfiles, gathered⟩ := bind_eq_ok_iff.mp gathered
    obtain ⟨ruleTypes, gatheredRuleTypes, gathered⟩ := bind_eq_ok_iff.mp gathered
    cases gathered
    refine ⟨⟨text, m, eq_ok_of_mapError read, eq_ok_of_mapError parsed, rfl⟩, fun folder => ?_⟩
    cases folder
    · exact gatheredProfiles
    · exact gatheredRuleTypes
  · rintro ⟨⟨text, m, read, parsed, metadata⟩, gathered⟩
    have profiles := gathered .profiles
    have ruleTypes := gathered .ruleTypes
    simp only [ofDirectory, read, parsed, profiles, ruleTypes, metadata, Except.mapError, bind,
      Except.bind]
    rfl

theorem mem_files_manifest {folder : Folder} {f : ManifestFile} :
    f ∈ p.manifest.files folder ↔
      ∃ name content, (name, content) ∈ p.files folder ∧ f = .ofContent name content := by
  rw [files_manifest, entriesFor, List.mem_map]
  constructor
  · rintro ⟨⟨name, content⟩, given, rfl⟩
    exact ⟨name, content, given, rfl⟩
  · rintro ⟨name, content, given, rfl⟩
    exact ⟨(name, content), given, rfl⟩

end BundleParts

namespace Bundle

open FileTree

/-- A loaded bundle is what a directory holds. -/
structure TakenFrom (disk : Disk) (directory : String) (b : Bundle) : Prop where
  metadata : ∃ text m, disk.readText (Path.join directory Manifest.fileName) = .ok text ∧
    Manifest.ofJson text = .ok m ∧ m.metadata = b.manifest.metadata
  /-- The files are ordered by the bytes of their names. -/
  ascending : ∀ folder,
    ((b.manifest.files folder).map (·.name.toUTF8.data.toList)).Pairwise (· < ·)
  listed : ∀ folder f, f ∈ b.manifest.files folder ↔
    ∃ name content, disk.HasFile (Path.join directory folder.name) name content ∧
      f = .ofContent name content
  contents : ∀ folder name content,
    disk.HasFile (Path.join directory folder.name) name content →
      contentOf b.files folder (.ofContent name content) = .ok content
  absent : ∀ folder, disk.contains (Path.join directory folder.name) = false →
    b.manifest.files folder = []
  /-- What stands there as a file is one of the files. -/
  ordinary : ∀ folder entries name content,
    disk.list (Path.join directory folder.name) = .ok entries → Disk.EntryName name →
      FileTree.child? entries (.ofString name) = some (.file content) →
        .ofContent name content ∈ b.manifest.files folder
  subdirectories : ∀ folder entries name inner,
    disk.list (Path.join directory folder.name) = .ok entries → Disk.EntryName name →
      FileTree.child? entries (.ofString name) = some (.directory inner) →
        name ∉ (b.manifest.files folder).map (·.name)

/-- What is packed from a directory is loaded as what the directory holds. In whatever order
directories list their entries, the same parts are gathered, so the manifest and the archive are the
same as well. -/
theorem takenFrom_directory {disk : Disk} {directory : String} {p : BundleParts}
    {file : ByteArray} (gathered : BundleParts.ofDirectory disk directory = .ok p)
    (packed : p.pack = .ok file) :
    (∃ b, ofArchive file = .ok b ∧ TakenFrom disk directory b) ∧
      ∀ disk', disk.Relisted disk' → BundleParts.ofDirectory disk' directory = .ok p := by
  obtain ⟨metadata, files⟩ := BundleParts.ofDirectory_eq_ok_iff.mp gathered
  obtain ⟨valid, -⟩ := BundleParts.pack_eq_ok_iff.mp packed
  have listed (folder : Folder) (f : ManifestFile) : f ∈ p.manifest.files folder ↔
      ∃ name content, disk.HasFile (Path.join directory folder.name) name content ∧
        f = .ofContent name content := by
    simp only [BundleParts.mem_files_manifest, BundleParts.mem_filesIn (files folder)]
  obtain ⟨text, m, read, parsed, same⟩ := metadata
  -- the date comes from the text of the manifest in the directory
  have dated : p.metadata.Dated := same ▸ (Manifest.settled_ofJson parsed).dated
  have loaded : ofArchive file = .ok ⟨p.manifest, p.packedContents⟩ := by
    rw [BundleParts.ofArchive_eq packed, Manifest.told_eq dated]
  refine ⟨⟨_, loaded, ?_⟩, fun disk' relisted =>
    (BundleParts.ofDirectory_relisted relisted directory).symm.trans gathered⟩
  constructor
  · exact ⟨text, m, read, parsed, same⟩
  · intro folder
    have distinct := (BundleParts.names_of_check valid folder).2
    have ascending := BundleParts.ascending_filesIn (files folder) distinct
    rw [BundleParts.files_manifest, BundleParts.entriesFor, List.map_map]
    exact ascending
  · exact listed
  · intro folder name content has
    exact BundleParts.contentOf_packed valid ((BundleParts.mem_filesIn (files folder)).mpr has)
  · intro folder missing
    have none := (BundleParts.filesIn_of_not_contains missing).symm.trans (files folder)
    rw [BundleParts.files_manifest, ← Except.ok.inj none]
    rfl
  · intro folder entries name content there proper entry
    have has := (Disk.hasFile_entry_iff there proper entry (by simp)).mpr rfl
    exact (listed folder _).mpr ⟨name, content, has, rfl⟩
  · intro folder entries name inner there proper entry member
    obtain ⟨f, given, rfl⟩ := List.mem_map.mp member
    obtain ⟨name, content, has, rfl⟩ := (listed folder f).mp given
    cases (Disk.hasFile_entry_iff there proper entry (by simp)).mp has

/-- The parts of which the manifest in the directory tells. -/
private def outdated : BundleParts := ⟨⟨"a", "b", "1.0.0", none⟩, [("old.yaml", .empty)], []⟩

/-- What is in the directory instead. -/
private def upToDate : BundleParts :=
  ⟨outdated.metadata, [("a.yaml", "- ".toUTF8), ("z.yaml", "z".toUTF8)], []⟩

/-- A file, a directory and a link. -/
private def unsorted : List (FileName × FileTree) :=
  [(.ofString "z.yaml", .file "z".toUTF8), (.ofString "sub", .directory []),
    (.ofString "a.yaml", .link "../x")]

/-- A disk with the directory as its root. -/
private def laidOut (profiles : List (FileName × FileTree)) : Disk where
  root := .directory [(.ofString "manifest.json", .file outdated.manifest.toJson.toUTF8),
    (.ofString "x", .file "- ".toUTF8), (.ofString "profiles", .directory profiles)]
  place := []

private theorem entryName (name : String)
    (used : name ∈ ["manifest.json", "profiles", "rule_types", "z.yaml", "sub", "a.yaml"]) :
    Disk.EntryName name := by
  simp only [List.mem_cons, List.not_mem_nil, or_false] at used
  rcases used with rfl | rfl | rfl | rfl | rfl | rfl <;>
    exact ⟨⟨by decide, by decide, by decide, by decide⟩, by decide, by decide⟩

private theorem find_top : (laidOut unsorted).find "/" = .ok (laidOut unsorted).root := by
  refine Disk.find_eq_ok_iff.mpr ⟨[], [], [], rfl, ?_, fun _ => ⟨_, rfl⟩⟩
  rw [FileTree.follow]
  rfl

private theorem find_profiles :
    (laidOut unsorted).find (Path.join "/" "profiles") = .ok (.directory unsorted) :=
  Disk.find_entry find_top (entryName _ (by decide)) rfl nofun

private theorem start_top {name : String} (proper : Disk.EntryName name) :
    (laidOut unsorted).start (Path.join "/" name) = .ok ([], [.down name]) := by
  have top : (laidOut unsorted).start "/" = .ok ([], []) := rfl
  exact Disk.start_join top proper

/-- The link leads to the file beside the manifest. -/
private theorem find_link :
    (laidOut unsorted).find (Path.join (Path.join "/" "profiles") "a.yaml") =
      .ok (.file "- ".toUTF8) := by
  have proper : Disk.EntryName "a.yaml" := entryName _ (by decide)
  have started := Disk.start_join (start_top (entryName "profiles" (by decide))) proper
  have link : FileTree.child? unsorted (.ofString "a.yaml") = some (.link "../x") := rfl
  have followed : (laidOut unsorted).root.follow maxLinks [] [.down "profiles", .down "a.yaml"] =
      .ok ([.ofString "x"], some (.file "- ".toUTF8)) :=
    calc (laidOut unsorted).root.follow (39 + 1) [] [.down "profiles", .down "a.yaml"]
        = (laidOut unsorted).root.follow (39 + 1) [.ofString "profiles"] [.down "a.yaml"] :=
          follow_entry rfl (by decide) rfl nofun
      _ = (laidOut unsorted).root.follow 39 [.ofString "profiles"] [.up, .down "x"] :=
          follow_link rfl (by decide) link
      _ = (laidOut unsorted).root.follow 39 [] [.down "x"] := follow_up rfl
      _ = (laidOut unsorted).root.follow 39 [.ofString "x"] [] :=
          follow_entry rfl (by decide) rfl nofun
      _ = .ok ([.ofString "x"], some (.file "- ".toUTF8)) := by
        rw [follow]
        rfl
  refine Disk.find_eq_ok_iff.mpr ⟨_, _, _, started, followed, fun closed => ?_⟩
  rw [Path.endsInDirectory_join (by decide) proper.toIsName] at closed
  cases closed

private theorem filesIn_profiles : BundleParts.filesIn (laidOut unsorted)
    (Path.join "/" "profiles") = .ok upToDate.profiles := by
  have file := Disk.find_entry find_profiles (entryName "z.yaml" (by decide)) rfl nofun
  have directory := Disk.find_entry find_profiles (entryName "sub" (by decide)) rfl nofun
  have texts : (unsorted.map Prod.fst).filterMap FileName.text? = ["z.yaml", "sub", "a.yaml"] := by
    simp [unsorted, FileName.text?_ofString]
  have names : BundleParts.fileNames (laidOut unsorted) (Path.join "/" "profiles") unsorted =
      ["z.yaml", "a.yaml"] := by
    rw [BundleParts.fileNames_eq, texts]
    simp only [BundleParts.isFile, List.filter_cons, file, directory, find_link]
    rfl
  have read : ["a.yaml", "z.yaml"].map
      (BundleParts.fileAt (laidOut unsorted) (Path.join "/" "profiles")) = upToDate.profiles := by
    simp only [BundleParts.fileAt, Disk.read, List.map_cons, file, find_link]
    rfl
  rw [BundleParts.filesIn_of_list (Disk.list_eq_ok_iff.mpr find_profiles), names,
    BundleParts.byName_perm (List.Perm.swap ..), read, BundleParts.byName,
    List.mergeSort_of_pairwise]
  decide

private theorem filesIn_ruleTypes : BundleParts.filesIn (laidOut unsorted)
    (Path.join "/" "rule_types") = .ok [] := by
  have started := start_top (entryName "rule_types" (by decide))
  have followed : (laidOut unsorted).root.follow maxLinks [] [.down "rule_types"] =
      .ok ([.ofString "rule_types"], none) := by
    rw [follow_down rfl (by decide) fun target link => ?_, List.nil_append, follow]
    · rfl
    · cases link
  refine BundleParts.filesIn_of_not_contains ?_
  simp only [Disk.contains, Disk.find, started, bind, Except.bind, followed]
  rfl

private theorem pack_upToDate : ∃ file, upToDate.pack = .ok file :=
  BundleParts.exists_pack (by decide +kernel) (by decide +kernel) (by decide +kernel)

private theorem readText_manifest : (laidOut unsorted).readText
    (Path.join "/" Manifest.fileName) = .ok outdated.manifest.toJson := by
  have found : (laidOut unsorted).find (Path.join "/" Manifest.fileName) =
      .ok (.file outdated.manifest.toJson.toUTF8) :=
    Disk.find_entry find_top (entryName _ (by decide)) rfl nofun
  exact Disk.readText_of_find found

private theorem gathered_upToDate :
    BundleParts.ofDirectory (laidOut unsorted) "/" = .ok upToDate := by
  refine BundleParts.ofDirectory_eq_ok_iff.mpr ⟨⟨_, _, readText_manifest,
    Manifest.ofJson_toJson BundleParts.sorted_manifest, rfl⟩, fun folder => ?_⟩
  cases folder
  · exact filesIn_profiles
  · exact filesIn_ruleTypes

private theorem relisted_reverse : (laidOut unsorted).Relisted (laidOut unsorted.reverse) := by
  have profiles : FileTree.Relisted (.directory unsorted) (.directory unsorted.reverse) :=
    .of_perm (List.reverse_perm _).symm (by decide)
  exact ⟨profiles.inside (.ofString "profiles")
    [(.ofString "manifest.json", .file outdated.manifest.toJson.toUTF8),
      (.ofString "x", .file "- ".toUTF8)] [], rfl⟩

theorem takenFrom_directory_unsorted : ∃ file b,
    BundleParts.ofDirectory (laidOut unsorted) "/" = .ok upToDate ∧ upToDate.pack = .ok file ∧
      ofArchive file = .ok b ∧ TakenFrom (laidOut unsorted) "/" b ∧
      BundleParts.ofDirectory (laidOut unsorted.reverse) "/" = .ok upToDate := by
  obtain ⟨file, packed⟩ := pack_upToDate
  obtain ⟨⟨b, loaded, taken⟩, others⟩ := takenFrom_directory gathered_upToDate packed
  exact ⟨file, b, gathered_upToDate, packed, loaded, taken, others _ relisted_reverse⟩

end Bundle

end RuleCatalog
