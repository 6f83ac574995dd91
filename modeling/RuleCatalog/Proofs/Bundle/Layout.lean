import RuleCatalog.Proofs.Bundle.Intact

/-! # The layout of an archive

What is loaded from an archive depends on the files in it and not on how they are laid out. The
order of the entries makes no difference, nor do detours at the front of their paths, nor entries
that are no files or lead out of the archive. All files may also stand together in a directory: then
the manifest is found there and nowhere else, and everything counts from its place.
-/

namespace RuleCatalog

namespace Bundle

open Archive (textBytes Entry)

variable {entries others moved : List Entry} {e e' : Entry} {path : FilePath} {bytes : List UInt8}
  {directory : String} {content : ByteArray}

/-! ## Paths written differently -/

namespace FilePath

theorem leads_dotted (relative : bytes.head? ≠ some slash) :
    Leads (dot :: slash :: bytes) path ↔ Leads bytes path := by
  have free : slash ∉ [dot] := by decide
  have parts : Path.segments slash (dot :: slash :: bytes) = [dot] :: Path.segments slash bytes :=
    Path.segments_append free bytes
  constructor
  · rintro ⟨-, inside, somewhere, names⟩
    rw [parts] at inside names
    exact ⟨relative, fun above => inside (List.mem_cons_of_mem _ above), somewhere, names⟩
  · rintro ⟨-, inside, somewhere, names⟩
    have first : some dot ≠ some slash := by decide
    refine ⟨first, ?_, somewhere, parts ▸ names⟩
    rw [parts, List.mem_cons, not_or]
    exact ⟨by decide, inside⟩

theorem Leads.under (plain : IsName (textBytes directory)) (leads : Leads bytes path) :
    Leads (textBytes directory ++ slash :: bytes) (directory :: path) := by
  have parts : Path.segments slash (textBytes directory ++ slash :: bytes) =
      textBytes directory :: Path.segments slash bytes := Path.segments_append plain.free bytes
  refine ⟨?_, ?_, List.cons_ne_nil _ _, ?_⟩
  · intro rooted
    obtain ⟨first, rest, written⟩ := List.exists_cons_of_ne_nil plain.nonempty
    rw [written] at rooted
    cases rooted
    exact plain.free (written ▸ List.mem_cons_self)
  · rw [parts, List.mem_cons, not_or]
    exact ⟨plain.notAbove.symm, leads.inside⟩
  · rw [parts, List.filter_cons_of_pos (by simp [plain.nonempty, plain.notHere]), leads.names]
    rfl

theorem exists_text_of_parts {parts : List FileName}
    (texts : ∀ part ∈ parts, ∃ text, part = textBytes text) :
    ∃ text, [slash].intercalate parts = textBytes text := by
  induction parts with
  | nil => exact ⟨"", rfl⟩
  | cons part parts ih =>
    obtain ⟨⟨text, rfl⟩, later⟩ := List.forall_mem_cons.mp texts
    obtain ⟨rest, written⟩ := ih later
    cases parts with
    | nil => exact ⟨text, List.intercalate_singleton⟩
    | cons second parts =>
      refine ⟨text ++ ("/" ++ rest), ?_⟩
      rw [List.intercalate_cons_cons, written, textBytes_append, textBytes_append]
      simp
      rfl

/-- A path of names that are texts is a text as a whole. -/
theorem Leads.exists_text (leads : Leads bytes path) : ∃ text, bytes = textBytes text := by
  rw [← Path.intercalate_segments slash bytes]
  refine exists_text_of_parts fun part member => ?_
  by_cases detour : part = [] ∨ part = [dot]
  · obtain rfl | rfl := detour
    · exact ⟨"", rfl⟩
    · exact ⟨".", by decide⟩
  · have kept : part ∈ path.map textBytes := by
      rw [← leads.names, List.mem_filter]
      simpa [member] using detour
    obtain ⟨text, -, rfl⟩ := List.mem_map.mp kept
    exact ⟨text, rfl⟩

end FilePath

/-! ## Entries laid out differently -/

/-- Nobody looks at an entry: it is no file, or its path starts at the root, steps up, leads nowhere
or is no text. -/
inductive Idle (e : Entry) : Prop
  | noFile (other : e.isFile = false)
  | rooted (rooted : e.path.head? = some FilePath.slash)
  | above (above : [FilePath.dot, FilePath.dot] ∈ Path.segments FilePath.slash e.path)
  | nowhere (detours : ∀ part ∈ Path.segments FilePath.slash e.path,
      part = [] ∨ part = [FilePath.dot])
  | noText (bytes : FileName.text? e.path = none)

/-- An entry with a lone dot in front of its path. -/
def dotted (e : Entry) : Entry := { e with path := FilePath.dot :: FilePath.slash :: e.path }

/-- An entry with a directory in front of its path. -/
def movedInto (directory : String) (e : Entry) : Entry :=
  { e with path := textBytes directory ++ FilePath.slash :: e.path }

/-- Entries are put in another order, get lone dots in front of their paths, or get entries among
them at which nobody looks, any number of times. -/
inductive Rearranged (entries : List Entry) : List Entry → Prop
  | same : Rearranged entries entries
  | reordered {others others' : List Entry} (before : Rearranged entries others)
      (order : others'.Perm others) : Rearranged entries others'
  | dotted {front back : List Entry} {e : Entry}
      (before : Rearranged entries (front ++ e :: back))
      (relative : e.path.head? ≠ some FilePath.slash) :
      Rearranged entries (front ++ dotted e :: back)
  | inserted {front back : List Entry} {e : Entry} (before : Rearranged entries (front ++ back))
      (idle : Idle e) : Rearranged entries (front ++ e :: back)

/-- A file is moved into a directory, and what nobody looks at stays where it is. -/
inductive Moved (directory : String) (e : Entry) : Entry → Prop
  | inside {path : FilePath} (here : IsAt path e) : Moved directory e (movedInto directory e)
  | left (idle : Idle e) : Moved directory e e

/-- Entries are rearranged where they are, or all files are moved into one directory on the way. -/
inductive Relaid (entries : List Entry) : List Entry → Prop
  | inPlace {others : List Entry} (after : Rearranged entries others) : Relaid entries others
  | moved {others moved others' : List Entry} {directory : String}
      (plain : FilePath.IsName (textBytes directory)) (before : Rearranged entries others)
      (all : List.Forall₂ (Moved directory) others moved) (after : Rearranged moved others') :
      Relaid entries others'

/-- No two files have the same path. -/
def Apart (entries : List Entry) : Prop :=
  entries.Pairwise fun e e' => ∀ path, IsAt path e → ¬IsAt path e'

theorem Idle.not_isAt (idle : Idle e) : ¬IsAt path e := by
  rintro ⟨isFile, leads⟩
  cases idle with
  | noFile other => exact Bool.eq_false_iff.mp other isFile
  | rooted rooted => exact leads.relative rooted
  | above above => exact leads.inside above
  | nowhere detours =>
    have none := leads.names
    have dropped : ∀ part ∈ Path.segments FilePath.slash e.path,
        ¬(part != [] && part != [FilePath.dot]) = true := fun part member => by
      simpa [or_iff_not_imp_left] using detours part member
    rw [List.filter_eq_nil_iff.mpr dropped] at none
    exact leads.somewhere (List.map_eq_nil_iff.mp none.symm)
  | noText bytes =>
    obtain ⟨text, written⟩ := leads.exists_text
    exact Option.some_ne_none text ((FilePath.text?_eq_some_iff.mpr written).symm.trans bytes)

namespace Contents

theorem filed?_of_idle (idle : Idle e) : filed? e = none :=
  Option.eq_none_iff_forall_ne_some.mpr fun _ given =>
    idle.not_isAt (filed?_eq_some_iff.mp given).1

theorem filed?_dotted (relative : e.path.head? ≠ some FilePath.slash) :
    filed? (dotted e) = filed? e := by
  ext ⟨path, content⟩
  rw [filed?_eq_some_iff, filed?_eq_some_iff]
  refine and_congr_left fun _ => ⟨fun here => ⟨here.isFile, ?_⟩, fun here => ⟨here.isFile, ?_⟩⟩
  · exact (FilePath.leads_dotted relative).mp here.leads
  · exact (FilePath.leads_dotted relative).mpr here.leads

/-- What becomes of a file when it is moved. -/
def within (directory : String) (file : FilePath × ByteArray) : FilePath × ByteArray :=
  (directory :: file.1, file.2)

theorem filed?_of_moved (plain : FilePath.IsName (textBytes directory))
    (moved : Moved directory e e') : filed? e' = (filed? e).map (within directory) := by
  cases moved with
  | inside here =>
    have there : IsAt (directory :: _) (movedInto directory e) :=
      ⟨here.isFile, here.leads.under plain⟩
    rw [filed?_eq_some_iff.mpr ⟨here, rfl⟩, filed?_eq_some_iff.mpr ⟨there, rfl⟩]
    rfl
  | left idle => rw [filed?_of_idle idle, Option.map_none]

theorem perm_of_rearranged (rearranged : Rearranged entries others) :
    (ofEntries others).Perm (ofEntries entries) := by
  simp only [ofEntries_eq]
  refine (List.reverse_perm _).trans (List.Perm.trans ?_ (List.reverse_perm _).symm)
  induction rearranged with
  | same => exact .rfl
  | reordered before order ih => exact (order.filterMap _).trans ih
  | dotted before relative ih =>
    simpa only [List.filterMap_append, List.filterMap_cons, filed?_dotted relative] using ih
  | inserted before idle ih =>
    simpa only [List.filterMap_append, List.filterMap_cons, filed?_of_idle idle] using ih

theorem ofEntries_of_moved (plain : FilePath.IsName (textBytes directory))
    (all : List.Forall₂ (Moved directory) entries moved) :
    ofEntries moved = (ofEntries entries).map (within directory) := by
  simp only [ofEntries_eq, List.map_reverse]
  congr 1
  induction all with
  | nil => rfl
  | cons first _ ih =>
    simp only [List.filterMap_cons, filed?_of_moved plain first]
    cases filed? _ with
    | none => exact ih
    | some file => exact congrArg _ ih

/-! ## Files that are found -/

theorem nodup_of_apart (apart : Apart entries) : ((ofEntries entries).map Prod.fst).Nodup := by
  rw [ofEntries_eq, List.map_reverse, List.nodup_reverse, List.Nodup, List.pairwise_map,
    List.pairwise_filterMap]
  refine apart.imp fun distinct => ?_
  rintro ⟨path, _⟩ here ⟨path', _⟩ there rfl
  exact distinct path (filed?_eq_some_iff.mp here).1 (filed?_eq_some_iff.mp there).1

theorem get?_eq_some_iff_mem {c : Contents} (distinct : (c.map Prod.fst).Nodup) :
    c.get? path = some content ↔ (path, content) ∈ c := by
  refine ⟨fun found => ?_, get?_eq_some distinct⟩
  obtain ⟨before, after, rfl, -⟩ := List.lookup_eq_some_iff.mp found
  exact List.mem_append_right _ List.mem_cons_self

theorem mem_map_within_iff {c : Contents} : (path, content) ∈ c.map (within directory) ↔
    ∃ rest, (rest, content) ∈ c ∧ directory :: rest = path := by
  rw [List.mem_map]
  constructor
  · rintro ⟨⟨rest, content⟩, member, moved⟩
    cases moved
    exact ⟨rest, member, rfl⟩
  · rintro ⟨rest, member, rfl⟩
    exact ⟨_, member, rfl⟩

theorem get?_map_within {c : Contents} :
    Contents.get? (c.map (within directory)) (directory :: path) = c.get? path := by
  rw [get?, get?]
  induction c with
  | nil => rfl
  | cons file c ih =>
    obtain ⟨name, content⟩ := file
    simp [within, List.lookup_cons, ih]

theorem nodup_map_within {c : Contents} (distinct : (c.map Prod.fst).Nodup) :
    ((c.map (within directory)).map Prod.fst).Nodup := by
  have paths : (c.map (within directory)).map Prod.fst = (c.map Prod.fst).map (directory :: ·) := by
    rw [List.map_map, List.map_map]
    rfl
  rw [paths]
  exact distinct.map fun _ _ same => (List.cons.inj same).2

theorem get?_perm {c c' : Contents} (order : c'.Perm c) (distinct : (c.map Prod.fst).Nodup) :
    c'.get? path = c.get? path := by
  have distinct' : (c'.map Prod.fst).Nodup := (order.map Prod.fst).nodup_iff.mpr distinct
  ext content
  rw [get?_eq_some_iff_mem distinct', get?_eq_some_iff_mem distinct, order.mem_iff]

end Contents

/-! ## The same bundle -/

theorem has_of_order {c : Contents} (order : (Contents.ofEntries others).Perm c) :
    Has others path ↔ ∃ content, (path, content) ∈ c := by
  rw [Contents.has_iff]
  exact exists_congr fun content => order.mem_iff

theorem root_of_rearranged (apart : Apart entries) (top : Has entries [Manifest.fileName])
    (order : (Contents.ofEntries others).Perm (Contents.ofEntries entries)) : Root others [] ∧
      ∀ path, (filesAt others []).get? path = (filesAt entries []).get? path := by
  refine ⟨.top ((has_of_order order).mpr (Contents.has_iff.mp top)), fun path => ?_⟩
  exact Contents.get?_perm order (Contents.nodup_of_apart apart)

/-- In a directory the manifest is found only once, since no file is left at the top and the file
that was at the top is the only one at its place. -/
theorem root_of_moved (apart : Apart entries) (top : Has entries [Manifest.fileName])
    (order : (Contents.ofEntries others).Perm
      ((Contents.ofEntries entries).map (Contents.within directory))) : Root others [directory] ∧
      ∀ path, (filesAt others [directory]).get? path = (filesAt entries []).get? path := by
  have has_iff (path : FilePath) : Has others path ↔
      ∃ rest, Has entries rest ∧ directory :: rest = path := by
    simp only [has_of_order order, Contents.has_iff, Contents.mem_map_within_iff]
    tauto
  refine ⟨.inside ?_ ((has_iff _).mpr ⟨_, top, rfl⟩) ?_, fun path => ?_⟩
  · intro atTop
    obtain ⟨rest, ⟨e, -, here⟩, same⟩ := (has_iff _).mp atTop
    exact here.leads.somewhere (List.cons.inj same).2
  · intro other has
    obtain ⟨rest, -, same⟩ := (has_iff _).mp has
    exact (List.cons.inj same).1.symm
  · have distinct := Contents.nodup_of_apart apart
    rw [filesAt, Contents.get?_under,
      Contents.get?_perm order (Contents.nodup_map_within distinct)]
    exact Contents.get?_map_within

/-- However the files of a bundle are laid out, the manifest is found, and from its place every path
leads to the same content. -/
theorem exists_root_of_relaid (apart : Apart entries) (top : Has entries [Manifest.fileName])
    (relaid : Relaid entries others) : ∃ root, Root others root ∧
      ∀ path, (filesAt others root).get? path = (filesAt entries []).get? path := by
  cases relaid with
  | inPlace after => exact ⟨[], root_of_rearranged apart top (Contents.perm_of_rearranged after)⟩
  | moved plain before all after =>
    have order := Contents.perm_of_rearranged after
    rw [Contents.ofEntries_of_moved plain all] at order
    have order := order.trans ((Contents.perm_of_rearranged before).map _)
    exact ⟨_, root_of_moved apart top order⟩

/-- What a bundle shows to those who use it. -/
def shown (b : Bundle) : Manifest × Offering := (b.manifest, b.offering)

variable {files files' : Contents} {root root' : FilePath}

theorem contentOf_congr (same : ∀ path, files'.get? path = files.get? path) :
    contentOf files' = contentOf files := by
  funext folder f
  rw [contentOf, contentOf, same]

theorem shown_congr (m : Manifest) (same : ∀ path, files'.get? path = files.get? path) :
    shown ⟨m, files'⟩ = shown ⟨m, files⟩ := by
  have documents {α : Type} (read : ByteArray → Except Yaml.Error α) :
      document ⟨m, files'⟩ read = document ⟨m, files⟩ read := by
    funext folder f
    rw [document, document, contentOf_congr same]
  have profiles : profile ⟨m, files'⟩ = profile ⟨m, files⟩ := by
    funext name
    rw [profile, profile, documents]
  rw [shown, shown, offering, offering, ruleTypes, ruleTypes, documents, profiles]

theorem shown_ofEntries_congr (place : Root entries root) (place' : Root others root')
    (same : ∀ path, (filesAt others root').get? path = (filesAt entries root).get? path) :
    (Bundle.ofEntries others).map shown = (Bundle.ofEntries entries).map shown := by
  have rooted : (Contents.ofEntries entries).rooted = .ok (filesAt entries root) :=
    Contents.rooted_eq_ok_iff.mpr ⟨root, place, rfl⟩
  have rooted' : (Contents.ofEntries others).rooted = .ok (filesAt others root') :=
    Contents.rooted_eq_ok_iff.mpr ⟨root', place', rfl⟩
  have checks : checkFile (filesAt others root') = checkFile (filesAt entries root) := by
    funext listed
    rw [checkFile, checkFile, contentOf_congr same]
  rw [Bundle.ofEntries, Bundle.ofEntries, ofContents, ofContents, rooted, rooted']
  simp only [bind, Except.bind, same, checks]
  cases (filesAt entries root).get? [Manifest.fileName] with
  | none => rfl
  | some text =>
    simp only [pure, Except.pure]
    cases (Manifest.ofBytes text).mapError Error.unreadableManifest with
    | error e => rfl
    | ok m =>
      dsimp only
      cases m.check.mapError Error.flawed with
      | error e => rfl
      | ok =>
        dsimp only
        cases m.listed.forM (checkFile (filesAt entries root)) with
        | error e => rfl
        | ok => exact congrArg Except.ok (shown_congr m same)

theorem ofArchive_of_readable {file : ByteArray}
    (readable : Archive.entries (Archive.Gzip.unpack file.data.toList) = some entries) :
    ofArchive file = Bundle.ofEntries entries := by
  rw [ofArchive, readable]

/-- If the files of an archive have different paths and a manifest is at the top, every archive in
which they are laid out differently gives the same result: it shows the same manifest and the same
documents, or it fails in the same way. -/
theorem layout_irrelevant {file other : ByteArray}
    (readable : Archive.entries (Archive.Gzip.unpack file.data.toList) = some entries)
    (readable' : Archive.entries (Archive.Gzip.unpack other.data.toList) = some others)
    (apart : Apart entries) (top : Has entries [Manifest.fileName])
    (relaid : Relaid entries others) :
    (ofArchive other).map shown = (ofArchive file).map shown := by
  obtain ⟨root, place, same⟩ := exists_root_of_relaid apart top relaid
  rw [ofArchive_of_readable readable, ofArchive_of_readable readable']
  exact shown_ofEntries_congr (.top top) place same

/-- A manifest with one profile. -/
def lone : Manifest := { capital with ruleTypes := [] }

/-- A manifest and a profile at the top of an archive. -/
def flat (manifest : String) : List Archive.PackedFile := [
  ⟨"manifest.json", textBytes manifest⟩,
  ⟨"profiles/p1", textBytes "a"⟩]

/-- The same files in a directory in the other order, one of them under a path with a detour, after
a file above the archive. -/
def nested (manifest : String) : List Archive.PackedFile := [
  ⟨"../pack/profiles/p1", textBytes "old"⟩,
  ⟨"./pack/profiles/p1", textBytes "a"⟩,
  ⟨"pack/manifest.json", textBytes manifest⟩]

theorem isAt_flat (manifest : String) :
    IsAt [Manifest.fileName] (Archive.PackedFile.entry ⟨"manifest.json", textBytes manifest⟩) ∧
      IsAt ["profiles", "p1"] (Archive.PackedFile.entry ⟨"profiles/p1", textBytes "a"⟩) := by
  have isManifest : FilePath.ofBytes? (textBytes "manifest.json") = some ["manifest.json"] := by
    decide
  have isProfile : FilePath.ofBytes? (textBytes "profiles/p1") = some ["profiles", "p1"] := by
    decide
  exact ⟨⟨rfl, FilePath.ofBytes?_eq_some_iff.mp isManifest⟩,
    ⟨rfl, FilePath.ofBytes?_eq_some_iff.mp isProfile⟩⟩

theorem top_flat (manifest : String) :
    Has ((flat manifest).map Archive.PackedFile.entry) [Manifest.fileName] :=
  ⟨_, List.mem_cons_self, (isAt_flat manifest).1⟩

theorem apart_flat (manifest : String) :
    Apart ((flat manifest).map Archive.PackedFile.entry) := by
  have differ : FilePath.ofBytes? (textBytes "manifest.json") ≠
      FilePath.ofBytes? (textBytes "profiles/p1") := by decide
  refine List.pairwise_pair.mpr fun path here there => differ ?_
  exact (FilePath.ofBytes?_eq_some_iff.mpr here.leads).trans
    (FilePath.ofBytes?_eq_some_iff.mpr there.leads).symm

theorem relaid_nested (manifest : String) : Relaid ((flat manifest).map Archive.PackedFile.entry)
    ((nested manifest).map Archive.PackedFile.entry) := by
  have plain : FilePath.IsName (textBytes "pack") := FilePath.isName_textBytes (by decide)
  obtain ⟨isManifest, isProfile⟩ := isAt_flat manifest
  refine .moved plain .same (.cons (.inside isManifest) (.cons (.inside isProfile) .nil)) ?_
  have swapped := Rearranged.reordered .same (List.Perm.swap
    (movedInto "pack" (Archive.PackedFile.entry ⟨"manifest.json", textBytes manifest⟩))
    (movedInto "pack" (Archive.PackedFile.entry ⟨"profiles/p1", textBytes "a"⟩)) [])
  have withDot := @Rearranged.dotted _ [] _ _ swapped (by decide)
  have above : Idle (Archive.PackedFile.entry ⟨"../pack/profiles/p1", textBytes "old"⟩) :=
    .above (by decide)
  exact @Rearranged.inserted _ [] _ _ withDot above

theorem lastAt_flat (manifest : String) :
    LastAt ((flat manifest).map Archive.PackedFile.entry) [Manifest.fileName] manifest.toUTF8 ∧
      LastAt ((flat manifest).map Archive.PackedFile.entry) ["profiles", "p1"] "a".toUTF8 := by
  obtain ⟨isManifest, isProfile⟩ := isAt_flat manifest
  have found {path : FilePath} {content : ByteArray} (given : ∃ e ∈
      (flat manifest).map Archive.PackedFile.entry, IsAt path e ∧ content = ⟨e.data.toArray⟩) :
      LastAt ((flat manifest).map Archive.PackedFile.entry) path content :=
    Contents.get?_eq_some_iff.mp (Contents.get?_eq_some (Contents.nodup_of_apart (apart_flat _))
      (Contents.mem_ofEntries_iff.mpr given))
  exact ⟨found ⟨_, List.mem_cons_self, isManifest, rfl⟩,
    found ⟨_, List.mem_cons_of_mem _ List.mem_cons_self, isProfile, rfl⟩⟩

theorem loaded_flat : ∃ b, b.manifest = lone ∧
    Bundle.ofEntries ((flat lone.toJson).map Archive.PackedFile.entry) = .ok b := by
  obtain ⟨lastManifest, lastProfile⟩ := lastAt_flat lone.toJson
  have sorted : lone.Sorted := by
    intro f member
    obtain rfl := List.mem_singleton.mp member
    exact List.pairwise_singleton ..
  have announced : Announces ((flat lone.toJson).map Archive.PackedFile.entry) [] lone :=
    ⟨.top (top_flat _), ⟨_, lastManifest, Manifest.ofBytes_toJson sorted⟩,
      Manifest.check_eq_ok_iff.mp (by decide)⟩
  refine ⟨_, rfl, (ofEntries_eq_ok_iff announced).mpr fun listed member => ?_⟩
  obtain rfl := List.mem_singleton.mp member
  exact ⟨_, lastProfile, _, rfl, digest_capital⟩

theorem layout_irrelevant_nested : ∃ other b,
    Archive.entries (Archive.Gzip.unpack other.data.toList) =
      some ((nested lone.toJson).map Archive.PackedFile.entry) ∧
    ofArchive other = .ok b ∧ b.manifest = lone := by
  have storable : ∀ f ∈ flat lone.toJson, f.storable := by decide +kernel
  have storable' : ∀ f ∈ nested lone.toJson, f.storable := by decide +kernel
  have readable := entries_unpack_pack (Archive.ofFiles_eq_ok_iff.mpr ⟨storable, rfl⟩)
  have readable' := entries_unpack_pack (Archive.ofFiles_eq_ok_iff.mpr ⟨storable', rfl⟩)
  have same := layout_irrelevant readable readable' (apart_flat _) (top_flat _) (relaid_nested _)
  obtain ⟨b, manifest, loaded⟩ := loaded_flat
  rw [ofArchive_of_readable readable, loaded] at same
  obtain ⟨b', loaded', shows⟩ := map_eq_ok_iff.mp same
  exact ⟨_, b', readable', loaded', (congrArg Prod.fst shows).trans manifest⟩

end Bundle

end RuleCatalog
