import Mathlib.Data.List.Nodup
import Mathlib.Data.List.Perm.Basic
import RuleCatalog.Proofs.FileTree.Entries

/-! # Orders of listing

A directory lists its entries in any order. Whatever the order is, paths lead to the same places and
files have the same content; only what is read by listing a directory depends on it, and even that
only in its order.
-/

namespace RuleCatalog

/-- Outcomes that are the same failure, or results that are alike. -/
inductive SameOutcome {α β ε : Type} (Alike : α → β → Prop) : Except ε α → Except ε β → Prop
  | error (e : ε) : SameOutcome Alike (.error e) (.error e)
  | ok {a : α} {b : β} (alike : Alike a b) : SameOutcome Alike (.ok a) (.ok b)

namespace SameOutcome

variable {α β γ δ ε : Type} {Alike : α → β → Prop} {Alike' : γ → δ → Prop} {x : Except ε α}
  {y : Except ε β}

theorem bind {f : α → Except ε γ} {g : β → Except ε δ} (same : SameOutcome Alike x y)
    (next : ∀ a b, Alike a b → SameOutcome Alike' (f a) (g b)) :
    SameOutcome Alike' (x >>= f) (y >>= g) := by
  cases same with
  | error e => exact .error e
  | ok alike => exact next _ _ alike

theorem bind_eq {f : α → Except ε γ} {g : β → Except ε γ} (same : SameOutcome Alike x y)
    (next : ∀ a b, Alike a b → f a = g b) : (x >>= f) = (y >>= g) := by
  cases same with
  | error e => rfl
  | ok alike => exact next _ _ alike

theorem eq_error {e : ε} (same : SameOutcome Alike (.error e) y) : y = .error e := by
  cases same
  rfl

theorem exists_ok {a : α} (same : SameOutcome Alike (.ok a) y) : ∃ b, y = .ok b ∧ Alike a b := by
  cases same with
  | ok alike => exact ⟨_, rfl, alike⟩

theorem isSome_toOption (same : SameOutcome Alike x y) : x.toOption.isSome = y.toOption.isSome := by
  cases same <;> rfl

end SameOutcome

namespace FileTree

/-- Trees that differ only in the order in which directories list their entries. -/
inductive Relisted : FileTree → FileTree → Prop
  | file (content : ByteArray) : Relisted (.file content) (.file content)
  | link (target : String) : Relisted (.link target) (.link target)
  | directory {entries others : List (FileName × FileTree)}
      (names : (entries.map Prod.fst).Perm (others.map Prod.fst))
      (children : ∀ name t u, child? entries name = some t → child? others name = some u →
        Relisted t u) :
      Relisted (.directory entries) (.directory others)

variable {t u root root' : FileTree} {entries others : List (FileName × FileTree)}
  {name : FileName}

theorem mem_of_child? (there : child? entries name = some t) : (name, t) ∈ entries := by
  obtain ⟨before, after, rfl, -⟩ := List.lookup_eq_some_iff.mp there
  exact List.mem_append_right _ List.mem_cons_self

namespace Relisted

theorem refl (t : FileTree) : Relisted t t := by
  cases t with
  | file content => exact .file content
  | link target => exact .link target
  | directory entries =>
    refine .directory (.refl _) fun name t u here there => ?_
    obtain rfl : t = u := Option.some.inj (here.symm.trans there)
    have smaller := List.sizeOf_lt_of_mem (mem_of_child? here)
    exact refl t
termination_by sizeOf t
decreasing_by
  simp only [FileTree.directory.sizeOf_spec, Prod.mk.sizeOf_spec] at smaller ⊢
  omega

/-- Entries with names of their own may be listed in any order. -/
theorem of_perm (perm : entries.Perm others) (distinct : (entries.map Prod.fst).Nodup) :
    Relisted (.directory entries) (.directory others) := by
  refine .directory (perm.map _) fun name t u here there => ?_
  have same := List.inj_on_of_nodup_map distinct (mem_of_child? here)
    (perm.mem_iff.mpr (mem_of_child? there)) rfl
  obtain rfl : t = u := congrArg Prod.snd same
  exact refl t

/-- A directory inside a directory may list its entries in another order. -/
theorem inside (relisted : Relisted t u) (name : FileName)
    (before after : List (FileName × FileTree)) :
    Relisted (.directory (before ++ (name, t) :: after))
      (.directory (before ++ (name, u) :: after)) := by
  refine .directory (by simp) fun other t' u' here there => ?_
  rw [child?, List.lookup_append] at here there
  cases earlier : before.lookup other with
  | some found =>
    rw [earlier, Option.some_or] at here there
    obtain rfl : t' = u' := Option.some.inj (here.symm.trans there)
    exact refl t'
  | none =>
    rw [earlier, Option.none_or, List.lookup_cons] at here there
    by_cases this : (other == name) = true
    · simp only [this] at here there
      obtain ⟨rfl⟩ := here
      obtain ⟨rfl⟩ := there
      exact relisted
    · simp only [this] at here there
      obtain rfl : t' = u' := Option.some.inj (here.symm.trans there)
      exact refl t'

end Relisted

theorem child?_relisted (names : (entries.map Prod.fst).Perm (others.map Prod.fst))
    (children : ∀ name t u, child? entries name = some t → child? others name = some u →
      Relisted t u) (name : FileName) :
    Option.Rel Relisted (child? entries name) (child? others name) := by
  have both : child? entries name = none ↔ child? others name = none := by
    rw [child?_eq_none_iff, child?_eq_none_iff, names.mem_iff]
  cases here : child? entries name with
  | none =>
    rw [both.mp here]
    exact .none
  | some t =>
    cases there : child? others name with
    | none => cases here.symm.trans (both.mpr there)
    | some u => exact .some (children name t u here there)

theorem Relisted.at? (relisted : Relisted t u) (place : List FileName) :
    Option.Rel Relisted (t.at? place) (u.at? place) := by
  induction place generalizing t u with
  | nil => cases t <;> cases u <;> exact .some relisted
  | cons name rest ih =>
    cases relisted with
    | file | link => exact .none
    | @directory entries others names children =>
      have child := child?_relisted names children name
      simp only [FileTree.at?]
      generalize child? entries name = here at child
      generalize child? others name = there at child
      cases child with
      | none => exact .none
      | some relisted => exact ih relisted

theorem Relisted.at?_directory (relisted : Relisted root root') {place : List FileName}
    (there : root.at? place = some (.directory entries)) :
    ∃ others, root'.at? place = some (.directory others) ∧
      ∀ name, Option.Rel Relisted (child? entries name) (child? others name) := by
  have alike := relisted.at? place
  rw [there] at alike
  generalize root'.at? place = there' at alike
  cases alike with
  | some relisted =>
    cases relisted with
    | directory names children => exact ⟨_, rfl, child?_relisted names children⟩

theorem link_iff_of_relisted {here there : Option FileTree} (alike : Option.Rel Relisted here there)
    {target : String} : here = some (.link target) ↔ there = some (.link target) := by
  cases alike with
  | none => exact Iff.rfl
  | some relisted => cases relisted <;> simp

/-- A path leads to the same place, and what stands there differs only in the order of listing. -/
theorem follow_relisted (relisted : Relisted root root') (links : Nat) (place : List FileName)
    (steps : List Path.Step) :
    SameOutcome (fun a b => a.1 = b.1 ∧ Option.Rel Relisted a.2 b.2)
      (root.follow links place steps) (root'.follow links place steps) := by
  fun_induction follow root links place steps with
  | case1 links place =>
    rw [follow]
    exact .ok ⟨rfl, relisted.at? place⟩
  | case2 links place step rest nothing =>
    have alike := relisted.at? place
    rw [nothing] at alike
    rw [follow]
    generalize root'.at? place = there' at alike
    cases alike
    exact .error _
  | case3 links place rest entries there ih =>
    obtain ⟨others, there', -⟩ := relisted.at?_directory there
    rw [follow_up there']
    exact ih
  | case4 links place rest entries there name bytes long =>
    obtain ⟨others, there', -⟩ := relisted.at?_directory there
    rw [follow, there']
    simp only [bytes, long]
    exact .error _
  | case5 place rest entries there name bytes fits target link =>
    obtain ⟨others, there', children⟩ := relisted.at?_directory there
    have link' := (link_iff_of_relisted (children bytes)).mp link
    rw [follow, there']
    simp only [bytes] at fits link'
    simp only [fits, if_false, link']
    exact .error _
  | case6 place rest entries there name bytes fits target link links ih =>
    obtain ⟨others, there', children⟩ := relisted.at?_directory there
    have link' := (link_iff_of_relisted (children bytes)).mp link
    rw [follow_link there' fits link']
    exact ih
  | case7 links place rest entries there name bytes fits noLink ih =>
    obtain ⟨others, there', children⟩ := relisted.at?_directory there
    have noLink' (target : String) : child? others bytes ≠ some (.link target) := fun link' =>
      noLink target ((link_iff_of_relisted (children bytes)).mpr link')
    rw [follow_down there' fits noLink']
    exact ih
  | case8 links place step rest other noDirectory there =>
    have alike := relisted.at? place
    rw [there] at alike
    rw [follow]
    generalize root'.at? place = there' at alike
    cases alike with
    | some relisted =>
      cases relisted with
      | file | link => exact .error _
      | directory => exact (noDirectory _ rfl).elim

end FileTree

namespace Disk

open FileTree

/-- Disks that differ only in the order in which directories list their entries. -/
structure Relisted (d d' : Disk) : Prop where
  root : d.root.Relisted d'.root
  place : d.place = d'.place

variable {d d' : Disk} (relisted : d.Relisted d') (path : String)

include relisted

theorem find_relisted : SameOutcome FileTree.Relisted (d.find path) (d'.find path) := by
  have start : d'.start path = d.start path := by rw [start, start, relisted.place]
  rw [find, find, start]
  cases d.start path with
  | error e => exact .error e
  | ok started =>
    obtain ⟨place, steps⟩ := started
    refine (follow_relisted relisted.root maxLinks place steps).bind ?_
    rintro ⟨place, found⟩ ⟨place', found'⟩ ⟨-, alike⟩
    cases alike with
    | none => exact .error _
    | some relisted =>
      cases relisted with
      | file content =>
        simp only
        split_ifs
        · exact .error _
        · exact .ok (.file content)
      | link target =>
        simp only
        split_ifs
        · exact .error _
        · exact .ok (.link target)
      | directory names children => exact .ok (.directory names children)

theorem contains_relisted : d.contains path = d'.contains path :=
  (find_relisted relisted path).isSome_toOption

/-- Files have the same content. -/
theorem read_relisted : d.read path = d'.read path := by
  refine (find_relisted relisted path).bind_eq fun t u alike => ?_
  cases alike <;> rfl

theorem readText_relisted : d.readText path = d'.readText path := by
  rw [readText, readText, read_relisted relisted]

/-- Directories list the same names. -/
theorem list_relisted : SameOutcome (fun entries others =>
    (entries.map Prod.fst).Perm (others.map Prod.fst)) (d.list path) (d'.list path) := by
  refine (find_relisted relisted path).bind fun t u alike => ?_
  cases alike with
  | file | link => exact .error _
  | directory names children => exact .ok names

end Disk

end RuleCatalog
