import Mathlib.Data.List.Nodup
import RuleCatalog.Bundle.Parts
import RuleCatalog.Proofs.Archive.Entries
import RuleCatalog.Proofs.Path.Segments

/-! # Where the files of a bundle are found

The path under which a file is put into an archive leads back to it: a plain name has no slash among
its bytes and is no detour, and no two files of a valid bundle have the same path.
-/

namespace RuleCatalog

namespace Bundle

open Archive (textBytes)

theorem textBytes_inj {a b : String} (same : textBytes a = textBytes b) : a = b :=
  String.toByteArray_inj.mp (ByteArray.ext (Array.toList_inj.mp same))

theorem textBytes_append (a b : String) : textBytes (a ++ b) = textBytes a ++ textBytes b := by
  simp [textBytes]

theorem text?_textBytes (name : String) : FileName.text? (textBytes name) = some name :=
  Text.fromUTF8?_toUTF8 name

theorem mapM_textBytes (names : List String) :
    (names.map textBytes).mapM FileName.text? = some names := by
  induction names with
  | nil => rfl
  | cons name names ih =>
    rw [List.map_cons, List.mapM_cons, text?_textBytes, ih]
    rfl

namespace FilePath

/-- What makes bytes one step down, not a detour. -/
structure IsName (name : FileName) : Prop where
  nonempty : name ≠ []
  free : slash ∉ name
  notHere : name ≠ [dot]
  notAbove : name ≠ [dot, dot]

theorem isName_textBytes {name : String} (plain : Manifest.isPlainName name) :
    IsName (textBytes name) := by
  have differs (other : String) (apart : name.toList ≠ other.toList) :
      textBytes name ≠ textBytes other :=
    fun same => apart (congrArg String.toList (textBytes_inj same))
  simp only [Manifest.isPlainName, Bool.and_eq_true, Bool.not_eq_true', List.isEmpty_eq_false_iff,
    List.contains_eq_mem, decide_eq_false_iff_not, bne_iff_ne, ne_eq] at plain
  obtain ⟨⟨⟨⟨nonempty, noSlash⟩, -⟩, notHere⟩, notAbove⟩ := plain
  refine ⟨differs "" nonempty, ?_, differs "." notHere, differs ".." notAbove⟩
  intro present
  obtain ⟨c, given, number⟩ := Text.exists_of_mem_toUTF8 present (by decide)
  have same : c = '/' := Char.toNat_inj.mp number
  exact noSlash (same ▸ given)

/-- A path whose parts are proper names leads to where they say. -/
theorem ofBytes?_eq {bytes : List UInt8} {name : String} {names : List String}
    (parts : Path.segments slash bytes = (name :: names).map textBytes)
    (proper : ∀ part ∈ name :: names, IsName (textBytes part)) :
    ofBytes? bytes = some (name :: names) := by
  have kept : ((name :: names).map textBytes).filter (fun part => part != [] && part != [dot]) =
      (name :: names).map textBytes := by
    rw [List.filter_eq_self]
    intro part present
    obtain ⟨text, given, rfl⟩ := List.mem_map.mp present
    have := proper text given
    simp [this.nonempty, this.notHere]
  have relative : bytes.head? ≠ some slash := by
    cases bytes with
    | nil => exact nofun
    | cons byte bytes =>
      intro rooted
      cases rooted
      rw [Path.segments, if_pos rfl] at parts
      exact (proper name List.mem_cons_self).nonempty (List.cons.inj parts).1.symm
  have inside : [dot, dot] ∉ (name :: names).map textBytes := by
    intro present
    obtain ⟨text, given, above⟩ := List.mem_map.mp present
    exact (proper text given).notAbove above
  rw [ofBytes?, parts]
  simp only [kept]
  rw [if_neg, mapM_textBytes]
  rintro (rooted | above | empty)
  · exact relative rooted
  · exact inside above
  · cases empty

theorem ofBytes?_name {name : String} (proper : IsName (textBytes name)) :
    ofBytes? (textBytes name) = some [name] :=
  ofBytes?_eq (Path.segments_of_free proper.free) (by simpa using proper)

theorem ofBytes?_path (folder : Folder) {name : String} (proper : IsName (textBytes name)) :
    ofBytes? (textBytes (folder.path name)) = some [folder.name, name] := by
  have above : IsName (textBytes folder.name) := isName_textBytes (by cases folder <;> decide)
  have written : textBytes (folder.path name) =
      textBytes folder.name ++ slash :: textBytes name := by
    rw [Folder.path, textBytes_append, textBytes_append, List.append_assoc]
    rfl
  refine ofBytes?_eq ?_ (by simpa using ⟨above, proper⟩)
  rw [written, Path.segments_append above.free, Path.segments_of_free proper.free]
  rfl

end FilePath

/-! ## Contents of an archive -/

/-- An archive that was packed has the files that were put into it. -/
theorem entries_unpack_pack {files : List Archive.PackedFile} {bytes : List UInt8}
    (archived : Archive.ofFiles files = .ok bytes) :
    Archive.entries (Archive.Gzip.unpack
        (ByteArray.mk (Archive.Gzip.pack bytes).toArray).data.toList) =
      some (files.map Archive.PackedFile.entry) := by
  rw [Archive.Gzip.unpack_pack]
  exact Archive.entries_ofFiles archived true

/-- What becomes of a file that was put into an archive. -/
def found? (f : Archive.PackedFile) : Option (FilePath × ByteArray) :=
  (FilePath.ofBytes? (textBytes f.path)).map (·, ⟨f.content.toArray⟩)

theorem ofEntries_map_entry (files : List Archive.PackedFile) :
    Contents.ofEntries (files.map Archive.PackedFile.entry) = (files.filterMap found?).reverse := by
  rw [Contents.ofEntries, List.filterMap_map]
  rfl

/-- In contents without repetitions every file is found under its path. -/
theorem Contents.get?_eq_some {c : Contents} (distinct : (c.map Prod.fst).Nodup) {path : FilePath}
    {content : ByteArray} (present : (path, content) ∈ c) : c.get? path = some content := by
  obtain ⟨before, after, rfl⟩ := List.append_of_mem present
  refine List.lookup_eq_some_iff.mpr ⟨before, after, rfl, ?_⟩
  intro other earlier
  rw [List.map_append, List.nodup_append] at distinct
  have apart := distinct.2.2 other.1 (List.mem_map_of_mem earlier) path List.mem_cons_self
  exact bne_iff_ne.mpr apart.symm

end Bundle

/-! ## The files of a valid manifest -/

namespace Manifest

/-- Files that pass a check have plain names, which differ from each other and from those before. -/
theorem checkFiles_ok {folder : Folder} {seen : List String} {files : List ManifestFile}
    (valid : checkFiles folder seen files = .ok ()) :
    (∀ f ∈ files, isPlainName f.name ∧ f.name ∉ seen) ∧ (files.map (·.name)).Nodup := by
  induction files generalizing seen with
  | nil => exact ⟨fun _ present => absurd present List.not_mem_nil, List.nodup_nil⟩
  | cons f files ih =>
    rw [checkFiles] at valid
    split at valid
    · cases valid
    split at valid
    · cases valid
    split at valid
    · cases valid
    · rename_i plain fresh _
      obtain ⟨later, distinct⟩ := ih valid
      simp only [Bool.not_eq_true, Bool.not_eq_false', List.contains_eq_mem,
        decide_eq_false_iff_not] at plain fresh
      refine ⟨List.forall_mem_cons.mpr ⟨⟨plain, fresh⟩, fun g present => ?_⟩,
        List.nodup_cons.mpr ⟨fun again => ?_, distinct⟩⟩
      · exact ⟨(later g present).1, fun old => (later g present).2 (List.mem_cons_of_mem _ old)⟩
      · obtain ⟨g, present, same⟩ := List.mem_map.mp again
        exact (later g present).2 (same ▸ List.mem_cons_self)

theorem checkFiles_of_check {m : Manifest} (valid : m.check = .ok ()) (folder : Folder) :
    checkFiles folder [] (m.files folder) = .ok () := by
  rw [check] at valid
  split at valid
  · cases valid
  split at valid
  · cases valid
  simp only [bind, Except.bind] at valid
  split at valid
  · cases valid
  · rename_i profiles
    cases folder
    · exact profiles
    · exact valid

end Manifest

/-! ## The files of parts -/

namespace BundleParts

variable {p : BundleParts}

/-- The files of one kind. -/
def files (p : BundleParts) : Folder → List NamedFile
  | .profiles => p.profiles
  | .ruleTypes => p.ruleTypes

/-- Where the files of one kind are found, and their contents. -/
def located (p : BundleParts) (folder : Folder) : Bundle.Contents :=
  (p.files folder).map fun (name, content) => ([folder.name, name], content)

/-- Where everything is found. -/
def contents (p : BundleParts) : Bundle.Contents :=
  ([Manifest.fileName], p.manifest.toJson.toUTF8) :: (p.located .profiles ++ p.located .ruleTypes)

theorem names_entriesFor (files : List NamedFile) :
    (entriesFor files).map (·.name) = files.map Prod.fst := by
  rw [entriesFor, List.map_map]
  rfl

theorem files_manifest (folder : Folder) :
    p.manifest.files folder = entriesFor (p.files folder) := by
  cases folder <;> rfl

/-- The names of the files of one kind in valid parts. -/
theorem names_of_check (valid : p.manifest.check = .ok ()) (folder : Folder) :
    (∀ name ∈ (p.files folder).map Prod.fst, Manifest.isPlainName name) ∧
      ((p.files folder).map Prod.fst).Nodup := by
  obtain ⟨plain, distinct⟩ := Manifest.checkFiles_ok (Manifest.checkFiles_of_check valid folder)
  rw [files_manifest, names_entriesFor] at distinct
  refine ⟨?_, distinct⟩
  rw [← names_entriesFor, ← files_manifest, List.forall_mem_map]
  exact fun f present => (plain f present).1

theorem paths_located (folder : Folder) :
    (p.located folder).map Prod.fst =
      ((p.files folder).map Prod.fst).map fun name => [folder.name, name] := by
  rw [located, List.map_map, List.map_map]
  rfl

/-- No two files of valid parts have the same path. -/
theorem paths_nodup (valid : p.manifest.check = .ok ()) : (p.contents.map Prod.fst).Nodup := by
  have kind (folder : Folder) : ((p.located folder).map Prod.fst).Nodup := by
    rw [paths_located]
    refine (names_of_check valid folder).2.map fun _ _ same => ?_
    exact (List.cons.inj (List.cons.inj same).2).1
  rw [contents, List.map_cons, List.map_append, List.nodup_cons, List.nodup_append]
  refine ⟨?_, kind .profiles, kind .ruleTypes, ?_⟩
  · simp [paths_located]
  · rw [paths_located, paths_located]
    intro path profile other ruleType same
    obtain ⟨name, -, rfl⟩ := List.mem_map.mp profile
    obtain ⟨name', -, rfl⟩ := List.mem_map.mp ruleType
    exact absurd (List.cons.inj same).1 (by decide)

theorem found?_placed (valid : p.manifest.check = .ok ()) (folder : Folder) :
    (placed folder (p.files folder)).filterMap Bundle.found? = p.located folder := by
  rw [placed, List.filterMap_map, located, ← List.filterMap_eq_map]
  refine List.filterMap_congr fun (name, content) present => ?_
  have plain := (names_of_check valid folder).1 name (List.mem_map_of_mem present)
  have path := Bundle.FilePath.ofBytes?_path folder (Bundle.FilePath.isName_textBytes plain)
  simp only [Function.comp_apply, Bundle.found?, path, Option.map_some]

theorem found?_manifest (text : String) :
    Bundle.found? ⟨Manifest.fileName, text.toUTF8.data.toList⟩ =
      some ([Manifest.fileName], text.toUTF8) := by
  have proper : Bundle.FilePath.IsName (Archive.textBytes Manifest.fileName) :=
    Bundle.FilePath.isName_textBytes (by decide)
  simp only [Bundle.found?, Bundle.FilePath.ofBytes?_name proper, Option.map_some]

theorem ofEntries_packedFiles (valid : p.manifest.check = .ok ()) :
    Bundle.Contents.ofEntries (p.packedFiles.map Archive.PackedFile.entry) =
      p.contents.reverse := by
  have profiles : (placed .profiles p.profiles).filterMap Bundle.found? = p.located .profiles :=
    found?_placed valid .profiles
  have ruleTypes : (placed .ruleTypes p.ruleTypes).filterMap Bundle.found? = p.located .ruleTypes :=
    found?_placed valid .ruleTypes
  rw [Bundle.ofEntries_map_entry, packedFiles, List.filterMap_cons_some (found?_manifest _),
    List.filterMap_append, profiles, ruleTypes, contents]

/-- Every file of valid parts is found in the archive under its path. -/
theorem get?_packed (valid : p.manifest.check = .ok ()) {path : Bundle.FilePath}
    {content : ByteArray} (present : (path, content) ∈ p.contents) :
    (Bundle.Contents.ofEntries (p.packedFiles.map Archive.PackedFile.entry)).get? path =
      some content := by
  rw [ofEntries_packedFiles valid]
  apply Bundle.Contents.get?_eq_some
  · rw [List.map_reverse, List.nodup_reverse]
    exact paths_nodup valid
  · exact List.mem_reverse.mpr present

end BundleParts

end RuleCatalog
