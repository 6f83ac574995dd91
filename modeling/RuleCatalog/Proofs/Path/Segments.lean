import Mathlib.Tactic.SplitIfs
import RuleCatalog.Path

/-! # Parts between slashes

A list is parted at every occurrence of an element: the parts are free of it, and put together again
with the element between them they give the list.
-/

namespace RuleCatalog.Path

variable {α : Type} [DecidableEq α] {slash : α}

theorem segments_of_free {name : List α} (free : slash ∉ name) : segments slash name = [name] := by
  induction name with
  | nil => rfl
  | cons c name ih =>
    rw [List.mem_cons, not_or] at free
    rw [segments, if_neg (Ne.symm free.1), ih free.2]

theorem segments_ne_nil (slash : α) (bytes : List α) :
    segments slash bytes ≠ [] := by
  cases bytes with
  | nil => exact nofun
  | cons c bytes =>
    rw [segments]
    split_ifs
    · exact nofun
    · split <;> exact nofun

/-- The parts before an occurrence and those after it do not depend on each other. -/
theorem segments_append_cons (front rest : List α) :
    segments slash (front ++ slash :: rest) = segments slash front ++ segments slash rest := by
  induction front with
  | nil => rw [List.nil_append, segments, segments, if_pos rfl, List.singleton_append]
  | cons c front ih =>
    obtain ⟨first, others, parts⟩ := List.exists_cons_of_ne_nil (segments_ne_nil slash front)
    rw [parts] at ih
    rw [List.cons_append, segments, ih, segments, parts]
    split_ifs <;> rfl

theorem segments_append {name : List α} (free : slash ∉ name) (rest : List α) :
    segments slash (name ++ slash :: rest) = name :: segments slash rest := by
  rw [segments_append_cons, segments_of_free free, List.singleton_append]

theorem intercalate_segments (slash : α) (bytes : List α) :
    [slash].intercalate (segments slash bytes) = bytes := by
  induction bytes with
  | nil => rfl
  | cons c bytes ih =>
    obtain ⟨first, others, parts⟩ := List.exists_cons_of_ne_nil (segments_ne_nil slash bytes)
    rw [segments, parts]
    rw [parts] at ih
    split_ifs with isSlash
    · rw [List.intercalate_cons_cons, ih, isSlash]
      rfl
    · cases others with
      | nil => simpa using ih
      | cons second others => simpa using ih

/-- No part of a list has the element at which the list is parted. -/
theorem slash_not_mem_of_mem_segments {bytes part : List α} (member : part ∈ segments slash bytes) :
    slash ∉ part := by
  induction bytes generalizing part with
  | nil =>
    rw [segments, List.mem_singleton] at member
    exact member ▸ List.not_mem_nil
  | cons c bytes ih =>
    obtain ⟨first, others, parts⟩ := List.exists_cons_of_ne_nil (segments_ne_nil slash bytes)
    rw [parts] at ih
    rw [segments, parts] at member
    split_ifs at member with isSlash
    · rcases List.mem_cons.mp member with rfl | old
      · exact List.not_mem_nil
      · exact ih old
    · rcases List.mem_cons.mp member with rfl | old
      · have free := ih List.mem_cons_self
        rw [List.mem_cons, not_or]
        exact ⟨Ne.symm isSlash, free⟩
      · exact ih (List.mem_cons_of_mem _ old)

theorem segments_intercalate {parts : List (List α)} (nonempty : parts ≠ [])
    (free : ∀ part ∈ parts, slash ∉ part) :
    segments slash ([slash].intercalate parts) = parts := by
  induction parts with
  | nil => exact absurd rfl nonempty
  | cons part parts ih =>
    obtain ⟨here, later⟩ := List.forall_mem_cons.mp free
    cases parts with
    | nil => rw [List.intercalate_singleton, segments_of_free here]
    | cons second parts =>
      rw [List.intercalate_cons_cons, List.append_assoc, List.singleton_append,
        segments_append here, ih (List.cons_ne_nil _ _) later]

end RuleCatalog.Path
