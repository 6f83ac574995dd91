import RuleCatalog.Proofs.Archive.Gzip
import RuleCatalog.Proofs.Archive.Headers
import RuleCatalog.Proofs.Text.Encoded

/-! # Reading what was put into an archive

The entries of an archive are the files that were put into it, each once, in their order, under
their own paths and with their own content. A path that does not fit into a header comes back in
full, since the member in front of its file is read for it.
-/

namespace RuleCatalog.Archive

theorem splitExactly_append {n : Nat} {first : List UInt8} (length : first.length = n)
    (rest : List UInt8) : splitExactly n (first ++ rest) = some (first, rest) := by
  simp only [splitExactly, List.take_left' length, List.drop_left' length, length, if_true]

theorem isEmpty_block {block : List UInt8} (length : block.length = blockSize)
    (rest : List UInt8) : (block ++ rest).isEmpty = false := by
  cases block with
  | nil => cases length
  | cons => rfl

theorem le_rounded (size : Nat) : size ≤ rounded size := by
  simp only [rounded, blockSize]
  omega

theorem filled_length (data : List UInt8) : (filled data).length = rounded data.length := by
  rw [filled, List.length_append, List.length_replicate, Nat.add_sub_cancel' (le_rounded _)]

/-! ## One member -/

theorem Pending.size_of_none {p : Pending} (none : p.attributes = .none) (size : Nat) :
    p.size size = size := by
  rw [Pending.size, none]
  split <;> simp_all

/-- The member that was put into the archive. -/
def Member.packed (name : List UInt8) (flag : Char) (data rest : List UInt8) : Member :=
  ⟨.make name flag data.length, data, rest⟩

section

variable {p : Pending} {flag : Char} {data : List UInt8} (name rest : List UInt8)
  (plain : p.attributes = .none) (dense : (Header.make name flag data.length).kind ≠ .sparse)
  (bounded : data.length < Field.bound)

include plain dense bounded

theorem Member.read_packed :
    Member.read p (.make name flag data.length) (filled data ++ rest) =
      some (.packed name flag data rest) := by
  have kept : (filled data).take data.length = data := List.take_left' rfl
  simp only [Member.read, Header.intact_make, Header.size?_make bounded, dataOf, dense, if_true,
    if_false, Option.bind_some, bind, Pending.size_of_none plain,
    splitExactly_append (filled_length data), kept]
  rfl

/-- A member is read, and what follows depends on what it means. -/
theorem entriesAfter_packed (whole : Bool) :
    entriesAfter whole p (memberBytes name flag data ++ rest) =
      match (Member.packed name flag data rest).take p with
      | none => none
      | some (.inl said) => entriesAfter whole said rest
      | some (.inr entry) => (entriesAfter whole .none rest).map (entry :: ·) := by
  have block := splitExactly_append (Header.make_length name flag data.length)
    (filled data ++ rest)
  have read := Member.read_packed name rest plain dense bounded
  -- the matches of `entriesAfter` carry their equations, so each is split and then decided
  rw [memberBytes, List.append_assoc, entriesAfter,
    if_neg (by rw [isEmpty_block (Header.make_length ..)]; decide)]
  split
  · rename_i failed
    cases block.symm.trans failed
  · rename_i split
    cases block.symm.trans split
    rw [if_neg (by rw [Header.isBlank_make]; decide)]
    split
    · rename_i failed
      cases read.symm.trans failed
    · rename_i found
      cases read.symm.trans found
      rfl

end

/-- A file is an entry under the name that was said before it, or else the one in its header. -/
theorem entriesAfter_file {p : Pending} (plain : p.attributes = .none) {data : List UInt8}
    (bounded : data.length < Field.bound) (whole : Bool) (name rest : List UInt8) :
    entriesAfter whole p (memberBytes name '0' data ++ rest) =
      (entriesAfter whole .none rest).map
        (⟨true, p.path (.make name '0' data.length), data⟩ :: ·) := by
  have kind := Header.kind_file name data.length
  rw [entriesAfter_packed name rest plain (by rw [kind]; decide) bounded]
  simp only [Member.take, Member.packed, kind, decide_true]

/-- A long name is kept for the member after it. -/
theorem entriesAfter_longName {data : List UInt8} (bounded : data.length < Field.bound)
    (whole : Bool) (name rest : List UInt8) :
    entriesAfter whole .none (memberBytes name 'L' data ++ rest) =
      entriesAfter whole ⟨some data, none, none⟩ rest := by
  have kind := Header.kind_longName name data.length
  rw [entriesAfter_packed name rest rfl (by rw [kind]; decide) bounded]
  simp only [Member.take, Member.packed, kind]
  rfl

/-! ## All files -/

/-- The entry for a file. -/
def PackedFile.entry (f : PackedFile) : Entry := ⟨true, textBytes f.path, f.content⟩

theorem utf8Encode_fitting {room : Nat} {cs : List Char} (fits : cs.utf8Encode.size ≤ room) :
    fitting room cs = cs := by
  induction cs generalizing room with
  | nil => rfl
  | cons c cs ih =>
    have size : (c :: cs).utf8Encode.size = c.utf8Size + cs.utf8Encode.size := by
      rw [List.utf8Encode_cons, ByteArray.size_append, List.utf8Encode_singleton]
      simp
    rw [fitting, if_pos (by omega), ih (by omega)]

namespace PackedFile

variable {f : PackedFile}

theorem shortPath_eq (short : (textBytes f.path).length ≤ nameWidth) :
    f.shortPath = textBytes f.path := by
  have whole : fitting nameWidth f.path.toList = f.path.toList := by
    apply utf8Encode_fitting
    rw [String.utf8Encode_toList]
    exact short
  rw [shortPath, whole, String.ofList_toList]

theorem entriesAfter_bytes (storable : f.storable) (whole : Bool) (rest : List UInt8) :
    entriesAfter whole .none (f.bytes ++ rest) =
      (entriesAfter whole .none rest).map (f.entry :: ·) := by
  simp only [PackedFile.storable, Bool.and_eq_true, Bool.not_eq_true', decide_eq_true_eq,
    List.contains_eq_mem, decide_eq_false_iff_not] at storable
  obtain ⟨⟨free, bounded⟩, boundedPath⟩ := storable
  rw [bytes]
  split
  · rename_i short
    rw [shortPath_eq short] at free ⊢
    rw [List.nil_append, entriesAfter_file rfl bounded]
    have path := Header.path_make short free '0' f.content.length
    simp only [Pending.path, Pending.none, Option.bind_none, Option.getD_none, path, entry]
  · rename_i long
    -- the path in the header does not matter, since the name that was said goes before it
    have length : (textBytes f.path ++ [0]).length = (textBytes f.path).length + 1 :=
      List.length_append
    have name : Pending.withoutZero (textBytes f.path ++ [0]) = textBytes f.path := by
      rw [Pending.withoutZero, List.getLast?_concat, if_pos rfl, List.dropLast_concat]
    rw [List.append_assoc, entriesAfter_longName (by omega), entriesAfter_file rfl bounded]
    simp only [Pending.path, name, entry]

end PackedFile

/-- A blank block ends an archive, whatever follows. -/
theorem entriesAfter_blank (whole : Bool) (rest : List UInt8) :
    entriesAfter whole .none (List.replicate blockSize 0 ++ rest) = some [] := by
  have block := splitExactly_append (List.length_replicate (n := blockSize) (a := (0 : UInt8))) rest
  have blank : Header.isBlank ⟨List.replicate blockSize 0⟩ = true :=
    List.all_eq_true.mpr fun _ present => beq_iff_eq.mpr (List.eq_of_mem_replicate present)
  rw [entriesAfter, if_neg (by rw [isEmpty_block List.length_replicate]; decide)]
  split
  · rename_i failed
    cases block.symm.trans failed
  · rename_i split
    cases block.symm.trans split
    rw [if_pos blank, if_pos rfl]

theorem entriesAfter_files {files : List PackedFile} (storable : ∀ f ∈ files, f.storable)
    (whole : Bool) :
    entriesAfter whole .none (files.flatMap PackedFile.bytes ++ ending) =
      some (files.map PackedFile.entry) := by
  induction files with
  | nil =>
    rw [List.flatMap_nil, List.nil_append, ending, Nat.two_mul, ← List.replicate_append_replicate,
      entriesAfter_blank, List.map_nil]
  | cons f files ih =>
    rw [List.forall_mem_cons] at storable
    rw [List.flatMap_cons, List.append_assoc, PackedFile.entriesAfter_bytes storable.1,
      ih storable.2, Option.map_some, List.map_cons]

/-- A file with a text can be stored under a path if the text is short enough. -/
theorem storable_text {path : String} {cs : List Char} (named : (PackedFile.mk path []).storable)
    (short : (cs.flatMap String.utf8EncodeChar).length < Field.bound) :
    (PackedFile.mk path (textBytes (String.ofList cs))).storable := by
  simp only [PackedFile.storable, Bool.and_eq_true, decide_eq_true_eq] at named ⊢
  refine ⟨⟨named.1.1, ?_⟩, named.2⟩
  rwa [textBytes, Text.toList_toUTF8, String.toList_ofList]

/-- An archive is made of files if each of them can be stored. -/
theorem ofFiles_eq_ok_iff {files : List PackedFile} {bytes : List UInt8} :
    ofFiles files = .ok bytes ↔
      (∀ f ∈ files, f.storable) ∧ files.flatMap PackedFile.bytes ++ ending = bytes := by
  rw [ofFiles]
  split
  · rename_i f found
    have present := List.mem_of_find?_eq_some found
    have refused := List.find?_some found
    exact ⟨nofun, fun ⟨storable, _⟩ => by simp [storable f present] at refused⟩
  · rename_i none
    have storable : ∀ f ∈ files, f.storable := by
      simpa using List.find?_eq_none.mp none
    exact ⟨fun packed => ⟨storable, Except.ok.inj packed⟩, fun packed => congrArg _ packed.2⟩

/-- The entries of an archive are the files that were put into it, whether or not it ends with its
bytes. -/
theorem entries_ofFiles {files : List PackedFile} {bytes : List UInt8}
    (packed : ofFiles files = .ok bytes) (whole : Bool) :
    entries ⟨bytes, whole⟩ = some (files.map PackedFile.entry) := by
  obtain ⟨storable, rfl⟩ := ofFiles_eq_ok_iff.mp packed
  exact entriesAfter_files storable whole

end RuleCatalog.Archive
