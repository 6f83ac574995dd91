import RuleCatalog.Proofs.Bundle.Contents
import RuleCatalog.Proofs.Bundle.Manifest
import RuleCatalog.Proofs.Bundle.Valid
import RuleCatalog.Proofs.Result

/-! # Intact bundles

Whether a bundle can be loaded is said here about the entries of its archive as they come. Of the
files with one path the last one counts, the place of the manifest is where all listed files are
looked for, and the first of them that is missing or has another content is told.
-/

namespace RuleCatalog.Bundle

open Archive (textBytes Entry)

/-! ## Paths of entries -/

namespace FilePath

/-- A written path leads to the place that other names say: it does not start at the root and never
steps up, and without empty parts and lone dots it consists of these names. -/
structure Leads (bytes : List UInt8) (path : FilePath) : Prop where
  relative : bytes.head? ≠ some slash
  inside : [dot, dot] ∉ Path.segments slash bytes
  somewhere : path ≠ []
  names : (Path.segments slash bytes).filter (fun name => name != [] && name != [dot]) =
    path.map textBytes

theorem text?_eq_some_iff {bytes : FileName} {name : String} :
    FileName.text? bytes = some name ↔ bytes = textBytes name := by
  constructor
  · intro read
    simp only [FileName.text?, String.fromUTF8?] at read
    split_ifs at read
    cases read
    rfl
  · rintro rfl
    exact text?_textBytes name

theorem mapM_text?_eq_some_iff {parts : List FileName} {path : FilePath} :
    parts.mapM FileName.text? = some path ↔ parts = path.map textBytes := by
  constructor
  · intro read
    induction parts generalizing path with
    | nil =>
      cases read
      rfl
    | cons part parts ih =>
      simp only [List.mapM_cons, bind, Option.bind_eq_some_iff, pure, Option.some.injEq] at read
      obtain ⟨name, here, names, later, rfl⟩ := read
      rw [List.map_cons, text?_eq_some_iff.mp here, ih later]
  · rintro rfl
    exact mapM_textBytes path

theorem ofBytes?_eq_some_iff {bytes : List UInt8} {path : FilePath} :
    ofBytes? bytes = some path ↔ Leads bytes path := by
  have above_iff : [dot, dot] ∈ (Path.segments slash bytes).filter
      (fun name => name != [] && name != [dot]) ↔ [dot, dot] ∈ Path.segments slash bytes := by
    simp [List.mem_filter]
  simp only [ofBytes?, above_iff]
  split_ifs with out
  · refine iff_of_false (by simp) ?_
    rintro ⟨relative, inside, somewhere, names⟩
    rcases out with rooted | above | empty
    · exact relative rooted
    · exact inside above
    · exact somewhere (List.map_eq_nil_iff.mp (names.symm.trans empty))
  · rw [mapM_text?_eq_some_iff]
    simp only [not_or] at out
    obtain ⟨relative, inside, some⟩ := out
    constructor
    · intro names
      exact ⟨relative, inside, fun empty => some (names.trans (by rw [empty]; rfl)), names⟩
    · exact Leads.names

end FilePath

/-! ## The last file of a path -/

/-- An entry is a file with a path. -/
structure IsAt (path : FilePath) (e : Entry) : Prop where
  isFile : e.isFile = true
  leads : FilePath.Leads e.path path

/-- Of the files with a path the last one has the given content. -/
def LastAt (entries : List Entry) (path : FilePath) (content : ByteArray) : Prop :=
  ∃ before e after, entries = before ++ e :: after ∧ IsAt path e ∧ content = ⟨e.data.toArray⟩ ∧
    ∀ later ∈ after, ¬IsAt path later

/-- There is a file with a path. -/
def Has (entries : List Entry) (path : FilePath) : Prop := ∃ e ∈ entries, IsAt path e

variable {entries : List Entry} {e : Entry} {path : FilePath} {content : ByteArray}

theorem lastAt_cons : LastAt (e :: entries) path content ↔
    LastAt entries path content ∨
      (IsAt path e ∧ content = ⟨e.data.toArray⟩ ∧ ¬Has entries path) := by
  constructor
  · rintro ⟨before, e', after, split, here, isContent, last⟩
    cases before with
    | nil =>
      cases split
      exact .inr ⟨here, isContent, fun ⟨later, member, again⟩ => last later member again⟩
    | cons first before =>
      cases split
      exact .inl ⟨before, e', after, rfl, here, isContent, last⟩
  · rintro (⟨before, e', after, rfl, here, isContent, last⟩ | ⟨here, isContent, last⟩)
    · exact ⟨e :: before, e', after, rfl, here, isContent, last⟩
    · exact ⟨[], e, entries, rfl, here, isContent,
        fun later member again => last ⟨later, member, again⟩⟩

namespace Contents

/-- What an entry adds to the contents. -/
def filed? (e : Entry) : Option (FilePath × ByteArray) :=
  if e.isFile then (FilePath.ofBytes? e.path).map (·, ⟨e.data.toArray⟩) else none

theorem filed?_eq_some_iff :
    filed? e = some (path, content) ↔ IsAt path e ∧ content = ⟨e.data.toArray⟩ := by
  by_cases isFile : e.isFile = true
  · simp only [filed?, isFile, if_true, Option.map_eq_some_iff, FilePath.ofBytes?_eq_some_iff,
      Prod.mk.injEq]
    constructor
    · rintro ⟨path, leads, rfl, rfl⟩
      exact ⟨⟨isFile, leads⟩, rfl⟩
    · rintro ⟨here, rfl⟩
      exact ⟨path, here.leads, rfl, rfl⟩
  · simp only [filed?, isFile]
    exact iff_of_false (by simp) fun given => isFile given.1.isFile

theorem ofEntries_eq : ofEntries entries = (entries.filterMap filed?).reverse := rfl

theorem mem_ofEntries_iff : (path, content) ∈ ofEntries entries ↔
    ∃ e ∈ entries, IsAt path e ∧ content = ⟨e.data.toArray⟩ := by
  simp only [ofEntries_eq, List.mem_reverse, List.mem_filterMap, filed?_eq_some_iff]

theorem has_iff : Has entries path ↔ ∃ content, (path, content) ∈ ofEntries entries := by
  simp only [mem_ofEntries_iff, Has]
  constructor
  · rintro ⟨e, member, here⟩
    exact ⟨_, e, member, here, rfl⟩
  · rintro ⟨-, e, member, here, -⟩
    exact ⟨e, member, here⟩

theorem get?_isSome_iff : ((ofEntries entries).get? path).isSome = true ↔ Has entries path := by
  rw [get?, List.lookup_isSome_iff, has_iff]
  constructor
  · rintro ⟨⟨other, content⟩, member, same⟩
    exact ⟨content, beq_iff_eq.mp same ▸ member⟩
  · rintro ⟨content, member⟩
    exact ⟨_, member, beq_self_eq_true path⟩

private theorem ofEntries_cons :
    ofEntries (e :: entries) = ofEntries entries ++ (filed? e).toList := by
  rw [ofEntries_eq, ofEntries_eq, List.filterMap_cons]
  cases filed? e <;> simp

/-- What is found is the content of the last file. -/
theorem get?_eq_some_iff : (ofEntries entries).get? path = some content ↔
    LastAt entries path content := by
  induction entries with
  | nil =>
    refine iff_of_false nofun ?_
    rintro ⟨before, e, after, split, -⟩
    cases before <;> cases split
  | cons e entries ih =>
    have first : (filed? e).toList.lookup path = some content ↔
        IsAt path e ∧ content = ⟨e.data.toArray⟩ := by
      rw [← filed?_eq_some_iff]
      rcases filed? e with _ | ⟨other, content'⟩
      · simp
      · by_cases same : path = other
        · simp [same]
        · simp [List.lookup_cons, beq_false_of_ne same, Ne.symm same]
    have absent : (ofEntries entries).get? path = none ↔ ¬Has entries path := by
      rw [← get?_isSome_iff, Option.not_isSome_iff_eq_none]
    rw [get?] at ih absent ⊢
    rw [ofEntries_cons, List.lookup_append, Option.or_eq_some_iff, ih, first, absent, lastAt_cons]
    exact or_congr_right (and_comm.trans and_assoc)

end Contents

/-! ## The place of the manifest -/

/-- The place from which the paths of a bundle count: the top of the archive if there is a manifest,
or else the only directory at the top with one. -/
inductive Root (entries : List Entry) : FilePath → Prop
  | top (here : Has entries [Manifest.fileName]) : Root entries []
  | inside {directory : String} (notTop : ¬Has entries [Manifest.fileName])
      (here : Has entries [directory, Manifest.fileName])
      (only : ∀ other, Has entries [other, Manifest.fileName] → other = directory) :
      Root entries [directory]

namespace Contents

variable {c : Contents}

/-- What is under a place, with paths from there. -/
def under (c : Contents) (root : FilePath) : Contents := root.foldl inside c

theorem get?_inside {directory : String} :
    (c.inside directory).get? path = c.get? (directory :: path) := by
  induction c with
  | nil => rfl
  | cons first c ih =>
    obtain ⟨other, content⟩ := first
    simp only [get?, inside] at ih ⊢
    cases other with
    | nil => simpa [List.lookup_cons] using ih
    | cons name rest =>
      by_cases here : name = directory
      · by_cases same : path = rest
        · simp [here, same]
        · simp [List.lookup_cons, here, beq_false_of_ne same, ih]
      · have apart : (directory :: path == name :: rest) = false :=
          beq_false_of_ne fun same => here (List.cons.inj same).1.symm
        simp only [List.filterMap_cons, if_neg here, List.lookup_cons, apart]
        exact ih

theorem get?_under {root : FilePath} : (c.under root).get? path = c.get? (root ++ path) := by
  induction root generalizing c with
  | nil => rfl
  | cons directory root ih => exact ih.trans get?_inside

theorem mem_directoriesWith {directory file : String} :
    directory ∈ (ofEntries entries).directoriesWith file ↔ Has entries [directory, file] := by
  rw [directoriesWith, List.mem_eraseDups, List.mem_filterMap, has_iff]
  constructor
  · rintro ⟨⟨path, content⟩, member, found⟩
    dsimp only at found
    split at found
    · split_ifs at found with named
      cases found
      exact ⟨content, named ▸ member⟩
    · cases found
  · rintro ⟨content, member⟩
    exact ⟨_, member, if_pos rfl⟩

/-- Of the directories with a manifest the second one is not the first one again. -/
theorem second_directory_ne {file first second : String} {others : List String}
    (found : c.directoriesWith file = first :: second :: others) : second ≠ first := by
  rw [directoriesWith] at found
  generalize c.filterMap _ = names at found
  cases names with
  | nil => cases found
  | cons name names =>
    rw [List.eraseDups_cons] at found
    obtain ⟨rfl, rest⟩ := List.cons.inj found
    have member : second ∈ (names.filter fun other => !other == name).eraseDups :=
      rest ▸ List.mem_cons_self
    simpa using (List.mem_filter.mp (List.mem_eraseDups.mp member)).2

theorem directoriesWith_eq_singleton_iff {directory file : String} :
    (ofEntries entries).directoriesWith file = [directory] ↔
      Has entries [directory, file] ∧ ∀ other, Has entries [other, file] → other = directory := by
  constructor
  · intro directories
    constructor
    · exact mem_directoriesWith.mp (directories ▸ List.mem_cons_self)
    · exact fun other has => List.mem_singleton.mp (directories ▸ mem_directoriesWith.mpr has)
  · rintro ⟨here, only⟩
    have all : ∀ other ∈ (ofEntries entries).directoriesWith file, other = directory :=
      fun other member => only other (mem_directoriesWith.mp member)
    cases directories : (ofEntries entries).directoriesWith file with
    | nil => exact absurd (directories ▸ mem_directoriesWith.mpr here) List.not_mem_nil
    | cons first others =>
      simp only [directories, List.forall_mem_cons] at all
      cases others with
      | nil => rw [all.1]
      | cons second others =>
        have again : second = first := (all.2 second List.mem_cons_self).trans all.1.symm
        exact absurd again (second_directory_ne directories)

theorem rooted_eq_ok_iff {files : Contents} : (ofEntries entries).rooted = .ok files ↔
    ∃ root, Root entries root ∧ files = (ofEntries entries).under root := by
  rw [rooted]
  by_cases top : Has entries [Manifest.fileName]
  · rw [if_pos (get?_isSome_iff.mpr top)]
    constructor
    · intro rooted
      exact ⟨[], .top top, (Except.ok.inj rooted).symm⟩
    · rintro ⟨root, isRoot, rfl⟩
      cases isRoot with
      | top => rfl
      | inside notTop => exact absurd top notTop
  · rw [if_neg fun found => top (get?_isSome_iff.mp found)]
    constructor
    · intro rooted
      split at rooted
      · cases rooted
      · rename_i directory directories
        obtain ⟨here, only⟩ := directoriesWith_eq_singleton_iff.mp directories
        exact ⟨[directory], .inside top here only, (Except.ok.inj rooted).symm⟩
      · cases rooted
    · rintro ⟨root, isRoot, rfl⟩
      cases isRoot with
      | top here => exact absurd here top
      | inside _ here only =>
        rw [directoriesWith_eq_singleton_iff.mpr ⟨here, only⟩]
        rfl

end Contents

/-! ## Listed files -/

/-- A valid manifest stands in the archive, and everything in the bundle counts from its place. -/
structure Announces (entries : List Entry) (root : FilePath) (m : Manifest) : Prop where
  place : Root entries root
  read : ∃ text, LastAt entries (root ++ [Manifest.fileName]) text ∧ Manifest.ofBytes text = .ok m
  valid : m.Valid

/-- Some content is that of a listed file in the archive, and it is the one that was listed. -/
structure Verified (entries : List Entry) (root : FilePath) (listed : Folder × ManifestFile)
    (content : ByteArray) : Prop where
  last : LastAt entries (root ++ pathOf listed.1 listed.2) content
  digest : ∃ digest, listed.2.sha256? = some digest ∧
    Digest.sameIgnoringCase digest (Digest.sha256Hex content) = true

/-- A listed file is there with the content that was listed. -/
def AsListed (entries : List Entry) (root : FilePath) (listed : Folder × ManifestFile) : Prop :=
  ∃ content, Verified entries root listed content

/-- How it is told that a listed file is not there with the content that was listed. -/
inductive Offends (entries : List Entry) (root : FilePath) : Folder × ManifestFile → Error → Prop
  | missing {folder f} (absent : ¬Has entries (root ++ pathOf folder f)) :
      Offends entries root (folder, f) (.missingFile (folder.path f.name))
  | other {folder f content digest} (last : LastAt entries (root ++ pathOf folder f) content)
      (given : f.sha256? = some digest)
      (differs : Digest.sameIgnoringCase digest (Digest.sha256Hex content) = false) :
      Offends entries root (folder, f)
        (.otherContent (folder.path f.name) digest (Digest.sha256Hex content))

variable {root : FilePath} {m : Manifest} {folder : Folder} {f : ManifestFile} {digest : String}

/-- The files of a bundle whose place in the archive is given. -/
def filesAt (entries : List Entry) (root : FilePath) : Contents :=
  (Contents.ofEntries entries).under root

theorem get?_filesAt_eq_some_iff :
    (filesAt entries root).get? path = some content ↔ LastAt entries (root ++ path) content := by
  rw [filesAt, Contents.get?_under, Contents.get?_eq_some_iff]

theorem get?_filesAt_eq_none_iff :
    (filesAt entries root).get? path = none ↔ ¬Has entries (root ++ path) := by
  rw [filesAt, Contents.get?_under, ← Contents.get?_isSome_iff, Option.not_isSome_iff_eq_none]

theorem checkFile_eq {files : Contents} (given : f.sha256? = some digest) :
    checkFile files (folder, f) =
      match files.get? (pathOf folder f) with
      | none => .error (.missingFile (folder.path f.name))
      | some content =>
        if Digest.sameIgnoringCase digest (Digest.sha256Hex content) then .ok ()
        else .error (.otherContent (folder.path f.name) digest (Digest.sha256Hex content)) := by
  cases found : files.get? (pathOf folder f) with
  | none => simp only [checkFile, contentOf, found, bind, Except.bind]
  | some content =>
    simp only [checkFile, contentOf, found, given, bind, Except.bind, Option.getD_some]
    rfl

theorem checkFile_eq_ok_iff (given : ∃ digest, f.sha256? = some digest) :
    checkFile (filesAt entries root) (folder, f) = .ok () ↔ AsListed entries root (folder, f) := by
  obtain ⟨digest, given⟩ := given
  rw [checkFile_eq given]
  cases found : (filesAt entries root).get? (pathOf folder f) with
  | none =>
    refine iff_of_false nofun ?_
    rintro ⟨content, verified⟩
    exact nomatch found.symm.trans (get?_filesAt_eq_some_iff.mpr verified.last)
  | some content =>
    have last := get?_filesAt_eq_some_iff.mp found
    dsimp only
    split_ifs with same
    · exact iff_of_true rfl ⟨content, last, digest, given, same⟩
    · refine iff_of_false nofun ?_
      rintro ⟨content', last', digest', given', same'⟩
      obtain rfl : content = content' :=
        Option.some.inj (found.symm.trans (get?_filesAt_eq_some_iff.mpr last'))
      obtain rfl : digest = digest' := Option.some.inj (given.symm.trans given')
      exact same same'

theorem checkFile_eq_error_iff {e : Error} (given : ∃ digest, f.sha256? = some digest) :
    checkFile (filesAt entries root) (folder, f) = .error e ↔
      Offends entries root (folder, f) e := by
  obtain ⟨digest, given⟩ := given
  rw [checkFile_eq given]
  cases found : (filesAt entries root).get? (pathOf folder f) with
  | none =>
    constructor
    · rintro ⟨⟩
      exact .missing (get?_filesAt_eq_none_iff.mp found)
    · intro offends
      cases offends with
      | missing => rfl
      | other last => exact nomatch found.symm.trans (get?_filesAt_eq_some_iff.mpr last)
  | some content =>
    have last := get?_filesAt_eq_some_iff.mp found
    constructor
    · intro told
      dsimp only at told
      split_ifs at told with same
      cases told
      exact .other last given (Bool.eq_false_iff.mpr same)
    · intro offends
      cases offends with
      | missing absent => exact nomatch found.symm.trans (get?_filesAt_eq_none_iff.mpr absent)
      | other last' given' differs =>
        obtain rfl := Option.some.inj (found.symm.trans (get?_filesAt_eq_some_iff.mpr last'))
        obtain rfl := Option.some.inj (given.symm.trans given')
        exact if_neg (Bool.eq_false_iff.mp differs)

/-! ## Loading -/

/-- Once a valid manifest was found, only the listed files can be at fault. -/
theorem ofEntries_of_announces (announced : Announces entries root m) :
    Bundle.ofEntries entries =
      (m.listed.forM (checkFile (filesAt entries root))).map fun _ =>
        ⟨m, filesAt entries root⟩ := by
  obtain ⟨place, ⟨text, last, read⟩, valid⟩ := announced
  have rooted : (Contents.ofEntries entries).rooted = .ok (filesAt entries root) :=
    Contents.rooted_eq_ok_iff.mpr ⟨root, place, rfl⟩
  have found := get?_filesAt_eq_some_iff.mpr last
  rw [Bundle.ofEntries, ofContents, rooted]
  simp only [bind, Except.bind, found, pure, Except.pure, read, Except.mapError,
    Manifest.check_eq_ok_iff.mpr valid]
  cases m.listed.forM (checkFile (filesAt entries root)) <;> rfl

/-- A bundle that was loaded has the manifest in the archive and the files from its place. -/
theorem announces_of_loaded {b : Bundle} (loaded : Bundle.ofEntries entries = .ok b) :
    ∃ root m, Announces entries root m ∧ b = ⟨m, filesAt entries root⟩ := by
  obtain ⟨files, rooted, loaded⟩ := bind_eq_ok_iff.mp loaded
  obtain ⟨root, place, rfl⟩ := Contents.rooted_eq_ok_iff.mp rooted
  rw [← filesAt] at loaded
  cases found : (filesAt entries root).get? [Manifest.fileName] with
  | none =>
    simp only [found] at loaded
    cases loaded
  | some text =>
    simp only [found, pure_bind] at loaded
    obtain ⟨m, read, loaded⟩ := bind_eq_ok_iff.mp loaded
    obtain ⟨⟨⟩, checked, loaded⟩ := bind_eq_ok_iff.mp loaded
    obtain ⟨-, -, loaded⟩ := bind_eq_ok_iff.mp loaded
    cases loaded
    have last := get?_filesAt_eq_some_iff.mp found
    have valid := Manifest.check_eq_ok_iff.mp (eq_ok_of_mapError checked)
    exact ⟨root, m, ⟨place, ⟨text, last, eq_ok_of_mapError read⟩, valid⟩, rfl⟩

/-- With a valid manifest the bundle is loaded if and only if all files are as listed. -/
theorem ofEntries_eq_ok_iff (announced : Announces entries root m) :
    Bundle.ofEntries entries = .ok ⟨m, filesAt entries root⟩ ↔
      ∀ listed ∈ m.listed, AsListed entries root listed := by
  have passed : Bundle.ofEntries entries = .ok ⟨m, filesAt entries root⟩ ↔
      m.listed.forM (checkFile (filesAt entries root)) = .ok () := by
    rw [ofEntries_of_announces announced, map_eq_ok_iff]
    exact ⟨fun ⟨_, passed, _⟩ => passed, fun passed => ⟨(), passed, rfl⟩⟩
  rw [passed, forM_eq_ok_iff]
  exact forall₂_congr fun _ member => checkFile_eq_ok_iff (announced.valid.digest_listed member)

/-- With a valid manifest the failure is that of the first file that offends. -/
theorem ofEntries_eq_error_iff (announced : Announces entries root m) {e : Error} :
    Bundle.ofEntries entries = .error e ↔
      ∃ before offender after, m.listed = before ++ offender :: after ∧
        (∀ listed ∈ before, AsListed entries root listed) ∧ Offends entries root offender e := by
  rw [ofEntries_of_announces announced, map_eq_error_iff, forM_eq_error_iff]
  refine exists₃_congr fun before offender after => and_congr_right fun split => ?_
  have digests : ∀ listed ∈ before ++ offender :: after,
      ∃ digest, listed.2.sha256? = some digest :=
    fun listed member => announced.valid.digest_listed (split ▸ member)
  refine and_congr ?_ ?_
  · exact forall₂_congr fun listed member =>
      checkFile_eq_ok_iff (digests listed (List.mem_append_left _ member))
  · exact checkFile_eq_error_iff
      (digests offender (List.mem_append_right _ List.mem_cons_self))

/-! ## An archive with a file twice -/

/-- A manifest with one profile and one rule type, whose digests are written in capitals. -/
def capital : Manifest where
  metadata := ⟨"a", "b", "1.0.0", none⟩
  profiles := [⟨"p1",
    [("sha-256", "CA978112CA1BBDCAFAC231B39A23DC4DA786EFF8147C4E72B9807785AFEE48BB")]⟩]
  ruleTypes := [⟨"r1",
    [("sha-256", "DFCDE2DE41740A981987BCAB4B83A0BFA18A4540E36EFCCFC7B9C99DF0240A61")]⟩]

set_option maxRecDepth 20000 in
/-- Capitals make no difference in a digest. -/
theorem digest_capital : Digest.sameIgnoringCase
    "CA978112CA1BBDCAFAC231B39A23DC4DA786EFF8147C4E72B9807785AFEE48BB"
    (Digest.sha256Hex "a".toUTF8) = true := by decide

set_option maxRecDepth 20000 in
theorem digest_capital_ruleType : Digest.sameIgnoringCase
    "DFCDE2DE41740A981987BCAB4B83A0BFA18A4540E36EFCCFC7B9C99DF0240A61"
    (Digest.sha256Hex "name: r1".toUTF8) = true := by decide

/-- A bundle in a directory. Another profile of the name comes first, under a path with detours. -/
def supplanted (manifest : String) : List Archive.PackedFile := [
  ⟨"./pack//profiles/p1", textBytes "old"⟩,
  ⟨"pack/manifest.json", textBytes manifest⟩,
  ⟨"pack/profiles/p1", textBytes "a"⟩,
  ⟨"pack/rule_types/r1", textBytes "name: r1"⟩]

def supplantedEntries : List Entry := (supplanted capital.toJson).map Archive.PackedFile.entry

set_option maxRecDepth 20000 in
theorem storable_supplanted : ∀ f ∈ supplanted capital.toJson, f.storable := by
  have short : ((Json.writePretty 0 capital.toValue).flatMap String.utf8EncodeChar).length <
      Archive.Field.bound := by decide
  have manifest : (Archive.PackedFile.mk "pack/manifest.json"
      (textBytes capital.toJson)).storable := Archive.storable_text (by decide) short
  simp only [supplanted, List.forall_mem_cons, manifest, true_and]
  decide

theorem readable_supplanted : ∃ file : ByteArray,
    Archive.entries (Archive.Gzip.unpack file.data.toList) = some supplantedEntries := by
  exact ⟨_, entries_unpack_pack (Archive.ofFiles_eq_ok_iff.mpr ⟨storable_supplanted, rfl⟩)⟩

theorem lastAt_supplanted (manifest : String) :
    LastAt ((supplanted manifest).map Archive.PackedFile.entry) ["pack", Manifest.fileName]
      manifest.toUTF8 := by
  have leads : FilePath.Leads (textBytes "pack/manifest.json") ["pack", Manifest.fileName] :=
    FilePath.ofBytes?_eq_some_iff.mp (by decide)
  have here : IsAt ["pack", Manifest.fileName]
      (Archive.PackedFile.entry ⟨"pack/manifest.json", textBytes manifest⟩) := ⟨rfl, leads⟩
  refine ⟨[_], _, [_, _], rfl, here, rfl, fun later member again => ?_⟩
  rcases List.mem_pair.mp member with rfl | rfl <;>
    exact absurd (FilePath.ofBytes?_eq_some_iff.mpr again.leads) (by decide)

theorem root_supplanted : Root supplantedEntries ["pack"] := by
  have directories : (Contents.ofEntries supplantedEntries).directoriesWith Manifest.fileName =
      ["pack"] := by decide
  obtain ⟨here, only⟩ := Contents.directoriesWith_eq_singleton_iff.mp directories
  refine .inside (fun top => ?_) here only
  exact absurd (Contents.get?_isSome_iff.mpr top) (by decide)

theorem announces_supplanted : Announces supplantedEntries ["pack"] capital := by
  have sorted : capital.Sorted := by
    intro f member
    rcases List.mem_pair.mp member with rfl | rfl <;> exact List.pairwise_singleton ..
  exact ⟨root_supplanted, ⟨_, lastAt_supplanted _, Manifest.ofBytes_toJson sorted⟩,
    Manifest.check_eq_ok_iff.mp (by decide)⟩

theorem asListed_supplanted : ∀ listed ∈ capital.listed,
    AsListed supplantedEntries ["pack"] listed := by
  intro listed member
  have profile : LastAt supplantedEntries ["pack", "profiles", "p1"] "a".toUTF8 :=
    Contents.get?_eq_some_iff.mp (by decide)
  have ruleType : LastAt supplantedEntries ["pack", "rule_types", "r1"] "name: r1".toUTF8 :=
    Contents.get?_eq_some_iff.mp (by decide)
  rcases List.mem_pair.mp member with rfl | rfl
  · exact ⟨_, profile, _, rfl, digest_capital⟩
  · exact ⟨_, ruleType, _, rfl, digest_capital_ruleType⟩

/-! ## Intact archives -/

/-- If the entries of an archive can be read, the bundle is loaded if and only if a valid manifest
stands in the archive and all listed files are there as listed. If only the files are at fault, the
failure is that of the first one in the order of the manifest. -/
theorem loads_iff_intact {file : ByteArray} {entries : List Entry}
    (readable : Archive.entries (Archive.Gzip.unpack file.data.toList) = some entries) :
    ((∃ b, ofArchive file = .ok b) ↔
      ∃ root m, Announces entries root m ∧ ∀ listed ∈ m.listed, AsListed entries root listed) ∧
    ∀ root m, Announces entries root m → ∀ e, ofArchive file = .error e ↔
      ∃ before offender after, m.listed = before ++ offender :: after ∧
        (∀ listed ∈ before, AsListed entries root listed) ∧ Offends entries root offender e := by
  have loading : ofArchive file = Bundle.ofEntries entries := by rw [ofArchive, readable]
  rw [loading]
  refine ⟨⟨?_, ?_⟩, fun root m announced e => ofEntries_eq_error_iff announced⟩
  · rintro ⟨b, loaded⟩
    obtain ⟨root, m, announced, rfl⟩ := announces_of_loaded loaded
    exact ⟨root, m, announced, (ofEntries_eq_ok_iff announced).mp loaded⟩
  · rintro ⟨root, m, announced, all⟩
    exact ⟨_, (ofEntries_eq_ok_iff announced).mpr all⟩

theorem loads_iff_intact_supplanted : ∃ file b,
    Archive.entries (Archive.Gzip.unpack file.data.toList) = some supplantedEntries ∧
      ofArchive file = .ok b := by
  obtain ⟨file, readable⟩ := readable_supplanted
  obtain ⟨b, loaded⟩ := (loads_iff_intact readable).1.mpr
    ⟨_, _, announces_supplanted, asListed_supplanted⟩
  exact ⟨file, b, readable, loaded⟩

end RuleCatalog.Bundle
