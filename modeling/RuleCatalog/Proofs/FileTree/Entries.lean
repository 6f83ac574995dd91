import RuleCatalog.FileTree
import RuleCatalog.Proofs.Path.Normal
import RuleCatalog.Proofs.Text.Encoded

/-! # Entries of a directory

The path of a directory with a name behind it leads to the entry of this name, unless a link stands
there, which is followed instead.
-/

namespace RuleCatalog

theorem FileName.text?_ofString (name : String) : (FileName.ofString name).text? = some name :=
  Text.fromUTF8?_toUTF8 name

namespace Path

variable {base name : String}

theorem relative_of_isName (proper : IsName name) : isAbsolute name = false := by
  cases letters : name.toList with
  | nil => simp [isAbsolute, letters]
  | cons c rest =>
    have free := proper.free
    rw [letters, List.mem_cons, not_or] at free
    simpa [isAbsolute, letters] using Ne.symm free.1

/-- A name behind a path is the last part of it, and the parts before are steps of the path. -/
theorem segments_join (nonempty : base ≠ "") (proper : IsName name) :
    ∃ parts, segments '/' (join base name).toList = parts ++ [name.toList] ∧
      parts.filterMap Step.ofSegment? = steps base := by
  have relative := relative_of_isName proper
  have inside : base.isEmpty = false := by simpa using nonempty
  have last : segments '/' name.toList = [name.toList] := segments_of_free proper.free
  rw [join, relative, inside, Bool.or_self, if_neg Bool.false_ne_true]
  split_ifs with closed
  · obtain ⟨front, ending⟩ : ∃ front, base.toList = front ++ ['/'] := by
      rw [beq_iff_eq, List.getLast?_eq_some_iff] at closed
      exact closed
    refine ⟨segments '/' front, ?_, ?_⟩
    · rw [String.toList_append, ending, List.append_assoc, List.singleton_append,
        segments_append_cons, last]
    · rw [steps, ending, segments_append_cons, List.filterMap_append]
      exact (List.append_nil _).symm
  · refine ⟨segments '/' base.toList, ?_, rfl⟩
    have slash : "/".toList = ['/'] := rfl
    rw [String.toList_append, String.toList_append, slash, List.append_assoc,
      List.singleton_append, segments_append_cons, last]

/-- A name behind a path is one more step. -/
theorem steps_join (nonempty : base ≠ "") (proper : IsName name) :
    steps (join base name) = steps base ++ [.down name] := by
  obtain ⟨parts, split, read⟩ := segments_join nonempty proper
  have segment : Step.ofSegment? name.toList = some (.down name) :=
    Step.Proper.ofSegment?_text (s := .down name) proper
  rw [steps, split, List.filterMap_append, read, List.filterMap_cons_some segment,
    List.filterMap_nil]

theorem endsInDirectory_join (nonempty : base ≠ "") (proper : IsName name) :
    endsInDirectory (join base name) = false := by
  obtain ⟨parts, split, -⟩ := segments_join nonempty proper
  obtain ⟨nonempty, notHere, -⟩ := proper.letters
  simp [endsInDirectory, split, nonempty, notHere]

theorem isAbsolute_join (nonempty : base ≠ "") (proper : IsName name) :
    isAbsolute (join base name) = isAbsolute base := by
  have inside : base.isEmpty = false := by simpa using nonempty
  obtain ⟨c, rest, letters⟩ := List.exists_cons_of_ne_nil
    fun empty => nonempty (String.toList_eq_nil_iff.mp empty)
  rw [join, relative_of_isName proper, inside, Bool.or_self, if_neg Bool.false_ne_true]
  split_ifs <;> simp [isAbsolute, letters]

theorem zero_not_mem_join (base_free : '\x00' ∉ base.toList) (name_free : '\x00' ∉ name.toList) :
    '\x00' ∉ (join base name).toList := by
  rw [join]
  split_ifs <;> simp [base_free, name_free]

end Path

namespace FileTree

variable {root : FileTree} {links : Nat} {place place' : List FileName}
  {steps rest : List Path.Step} {found : Option FileTree} {entries : List (FileName × FileTree)}
  {name : String}

theorem child?_eq_none_iff {name : FileName} :
    child? entries name = none ↔ name ∉ entries.map Prod.fst := by
  simp only [child?, List.lookup_eq_none_iff, bne_iff_ne, List.mem_map, not_exists, not_and]
  exact forall₂_congr fun _ _ => ne_comm

theorem at?_concat {t : FileTree} (there : t.at? place = some (.directory entries))
    (name : FileName) : t.at? (place ++ [name]) = child? entries name := by
  induction place generalizing t with
  | nil =>
    have same : t = .directory entries := by
      cases t <;> exact Option.some.inj there
    rw [same, List.nil_append, at?]
    cases child? entries name with
    | none => rfl
    | some child => cases child <;> rfl
  | cons first rest ih =>
    cases t with
    | file | link => cases there
    | directory others =>
      obtain ⟨child, here, there⟩ := Option.bind_eq_some_iff.mp there
      rw [List.cons_append, at?, here, Option.bind_some, ih there]

/-! ## Steps -/

section Steps

variable (there : root.at? place = some (.directory entries))

include there

theorem follow_up :
    root.follow links place (.up :: rest) = root.follow links place.dropLast rest := by
  rw [follow, there]

variable (fits : ¬(FileName.ofString name).length > maxName)

include fits

theorem follow_down (noLink : ∀ target, child? entries (.ofString name) ≠ some (.link target)) :
    root.follow links place (.down name :: rest) =
      root.follow links (place ++ [.ofString name]) rest := by
  rw [follow, there]
  simp only [fits, if_false]

theorem follow_entry {t : FileTree} (entry : child? entries (.ofString name) = some t)
    (noLink : ∀ target, t ≠ .link target) :
    root.follow links place (.down name :: rest) =
      root.follow links (place ++ [.ofString name]) rest :=
  follow_down there fits fun target link =>
    noLink target (Option.some.inj (entry.symm.trans link))

theorem follow_link {target : String}
    (link : child? entries (.ofString name) = some (.link target)) :
    root.follow (links + 1) place (.down name :: rest) =
      root.follow links (if Path.isAbsolute target then [] else place)
        (Path.steps target ++ rest) := by
  rw [follow, there]
  simp only [fits, if_false, link]

end Steps

/-- Where the first steps lead is where the others start. -/
theorem follow_append (followed : root.follow links place steps = .ok (place', found)) :
    ∃ links', ∀ more, root.follow links place (steps ++ more) = root.follow links' place' more := by
  fun_induction follow root links place steps with
  | case1 links place =>
    cases followed
    exact ⟨links, fun more => rfl⟩
  | case3 links place rest entries there ih =>
    obtain ⟨links', continued⟩ := ih followed
    refine ⟨links', fun more => ?_⟩
    rw [List.cons_append, follow_up there]
    exact continued more
  | case6 place rest entries there name bytes fits target link links ih =>
    obtain ⟨links', continued⟩ := ih followed
    refine ⟨links', fun more => ?_⟩
    rw [List.cons_append, follow_link there fits link, ← List.append_assoc]
    exact continued more
  | case7 links place rest entries there name bytes fits noLink ih =>
    obtain ⟨links', continued⟩ := ih followed
    refine ⟨links', fun more => ?_⟩
    rw [List.cons_append, follow_down there fits noLink]
    exact continued more
  | case2 | case4 | case5 | case8 => cases followed

theorem follow_found (followed : root.follow links place steps = .ok (place', found)) :
    root.at? place' = found := by
  fun_induction follow root links place steps with
  | case1 links place =>
    cases followed
    rfl
  | case3 links place rest entries there ih => exact ih followed
  | case6 place rest entries there name bytes fits target link links ih => exact ih followed
  | case7 links place rest entries there name bytes fits noLink ih => exact ih followed
  | case2 | case4 | case5 | case8 => cases followed

end FileTree

namespace Disk

open FileTree

variable {d : Disk} {path directory name : String} {t : FileTree}
  {entries : List (FileName × FileTree)}

theorem start_eq_ok_iff {place : List FileName} {steps : List Path.Step} :
    d.start path = .ok (place, steps) ↔ '\x00' ∉ path.toList ∧ path ≠ "" ∧
      place = (if Path.isAbsolute path then [] else d.place) ∧ steps = Path.steps path := by
  rw [start, eq_comm (a := place), eq_comm (a := steps)]
  by_cases zero : '\x00' ∈ path.toList <;> by_cases empty : path = "" <;> simp [zero, empty]

/-- A path leads to what stands at the end of its steps, unless it ends like that of a directory and
there is none. -/
theorem find_eq_ok_iff : d.find path = .ok t ↔
    ∃ place steps place', d.start path = .ok (place, steps) ∧
      d.root.follow maxLinks place steps = .ok (place', some t) ∧
      (Path.endsInDirectory path = true → ∃ entries, t = .directory entries) := by
  rw [find]
  cases d.start path with
  | error e => simp [bind, Except.bind]
  | ok started =>
    obtain ⟨place, steps⟩ := started
    cases followed : d.root.follow maxLinks place steps with
    | error e => simp [bind, Except.bind, followed]
    | ok ended =>
      obtain ⟨place', _ | t'⟩ := ended
      · simp [bind, Except.bind, followed]
      · cases t' <;> cases closed : Path.endsInDirectory path <;>
          simp [bind, Except.bind, pure, Except.pure, followed]
        all_goals
          rintro rfl
          simp

/-- A name under which a directory can have an entry. -/
structure EntryName (name : String) : Prop extends Path.IsName name where
  noZero : '\x00' ∉ name.toList
  short : (FileName.ofString name).length ≤ maxName

/-- The steps to an entry start where those to its directory do. -/
theorem start_join {place : List FileName} {steps : List Path.Step}
    (started : d.start directory = .ok (place, steps)) (proper : EntryName name) :
    d.start (Path.join directory name) = .ok (place, steps ++ [.down name]) := by
  obtain ⟨noZero, nonempty, rfl, rfl⟩ := start_eq_ok_iff.mp started
  have further := Path.steps_join nonempty proper.toIsName
  refine start_eq_ok_iff.mpr ⟨Path.zero_not_mem_join noZero proper.noZero, ?_, ?_, further.symm⟩
  · intro nothing
    have none : Path.steps "" = [] := rfl
    rw [nothing, none] at further
    exact List.append_ne_nil_of_right_ne_nil _ (List.cons_ne_nil _ _) further.symm
  · rw [Path.isAbsolute_join nonempty proper.toIsName]

/-- The path of an entry leads to it, if it is no link. -/
theorem find_entry (found : d.find directory = .ok (.directory entries)) (proper : EntryName name)
    (there : child? entries (.ofString name) = some t) (noLink : ∀ target, t ≠ .link target) :
    d.find (Path.join directory name) = .ok t := by
  obtain ⟨place, steps, place', started, followed, -⟩ := find_eq_ok_iff.mp found
  obtain ⟨-, nonempty, -⟩ := start_eq_ok_iff.mp started
  have here : d.root.at? place' = some (.directory entries) := follow_found followed
  obtain ⟨links, continued⟩ := follow_append followed
  refine find_eq_ok_iff.mpr ⟨place, steps ++ [.down name], place' ++ [.ofString name],
    start_join started proper, ?_, fun closed => ?_⟩
  · rw [continued, follow_entry here (Nat.not_lt.mpr proper.short) there noLink, follow,
      at?_concat here, there]
  · rw [Path.endsInDirectory_join nonempty proper.toIsName] at closed
    cases closed

/-! ## Files in a directory -/

theorem list_eq_ok_iff : d.list path = .ok entries ↔ d.find path = .ok (.directory entries) := by
  rw [list]
  cases d.find path with
  | error e => simp [bind, Except.bind]
  | ok t => cases t <;> simp [bind, Except.bind, pure, Except.pure]

theorem contains_of_list (there : d.list path = .ok entries) : d.contains path = true := by
  rw [contains, list_eq_ok_iff.mp there]
  rfl

theorem readText_of_find {text : String} (found : d.find path = .ok (.file text.toUTF8)) :
    d.readText path = .ok text := by
  simp only [readText, read, found, bind, Except.bind, pure, Except.pure, Text.fromUTF8?_toUTF8]

/-- A directory lists a name under which a file can be read, possibly through a link. -/
structure HasFile (d : Disk) (directory name : String) (content : ByteArray) : Prop where
  listed : ∃ entries, d.list directory = .ok entries ∧
    FileName.ofString name ∈ entries.map Prod.fst
  read : d.read (Path.join directory name) = .ok content

/-- Under an entry that is no link there is a file exactly if the entry is one. -/
theorem hasFile_entry_iff {content : ByteArray} (there : d.list directory = .ok entries)
    (proper : EntryName name) (entry : child? entries (.ofString name) = some t)
    (noLink : ∀ target, t ≠ .link target) :
    d.HasFile directory name content ↔ t = .file content := by
  have found : d.find directory = .ok (.directory entries) := list_eq_ok_iff.mp there
  have listed : FileName.ofString name ∈ entries.map Prod.fst := by
    by_contra unlisted
    cases entry.symm.trans (child?_eq_none_iff.mpr unlisted)
  have read : d.read (Path.join directory name) = .ok content ↔ t = .file content := by
    rw [Disk.read, find_entry found proper entry noLink]
    cases t <;> simp [bind, Except.bind, pure, Except.pure]
  exact ⟨fun has => read.mp has.read, fun file => ⟨⟨entries, there, listed⟩, read.mpr file⟩⟩

end Disk

end RuleCatalog
