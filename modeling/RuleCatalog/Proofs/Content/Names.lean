import Mathlib.Data.String.Basic
import RuleCatalog.Content.Profile

/-! # The rule types that a profile names

The names of the rule types that are in use in a profile are listed once each, in ascending order.
-/

namespace RuleCatalog

theorem mem_insertName {name other : String} {names : List String} :
    other ∈ insertName name names ↔ other = name ∨ other ∈ names := by
  induction names with
  | nil => simp [insertName]
  | cons first rest ih =>
    by_cases before : name < first
    · simp [insertName, before]
    · by_cases same : name = first
      · simp [insertName, same]
      · simp [insertName, before, same, ih, or_left_comm]

theorem ascending_insertName {name : String} {names : List String}
    (ascending : names.Pairwise (· < ·)) : (insertName name names).Pairwise (· < ·) := by
  induction names with
  | nil => simp [insertName]
  | cons first rest ih =>
    obtain ⟨least, ascendingRest⟩ := List.pairwise_cons.mp ascending
    by_cases before : name < first
    · simp only [insertName, if_pos before]
      refine List.pairwise_cons.mpr ⟨?_, ascending⟩
      intro other member
      rcases List.mem_cons.mp member with rfl | later
      · exact before
      · exact lt_trans before (least other later)
    · by_cases same : name = first
      · simpa only [insertName, if_neg before, if_pos same] using ascending
      · simp only [insertName, if_neg before, if_neg same]
        refine List.pairwise_cons.mpr ⟨?_, ih ascendingRest⟩
        intro other member
        rcases mem_insertName.mp member with rfl | later
        · exact lt_of_le_of_ne (not_lt.mp before) (Ne.symm same)
        · exact least other later

theorem mem_sortedNames {name : String} {names : List String} :
    name ∈ sortedNames names ↔ name ∈ names := by
  induction names with
  | nil => simp [sortedNames]
  | cons first rest ih =>
    rw [List.mem_cons, ← ih]
    exact mem_insertName

theorem ascending_sortedNames (names : List String) : (sortedNames names).Pairwise (· < ·) := by
  induction names with
  | nil => exact .nil
  | cons first rest ih => exact ascending_insertName ih

namespace Profile

theorem mem_ruleTypeNames {p : Profile} {name : String} :
    name ∈ p.ruleTypeNames ↔ ∃ rule ∈ p.rules, rule.ruleType = name := by
  rw [ruleTypeNames, mem_sortedNames, List.mem_map]

theorem ascending_ruleTypeNames (p : Profile) : p.ruleTypeNames.Pairwise (· < ·) :=
  ascending_sortedNames _

end Profile

end RuleCatalog
