import RuleCatalog.Content.RuleType
import RuleCatalog.Proofs.Json.Layout

/-! # Agreement

A value agrees with itself unless a number in it is none, which no document can bring about.
-/

namespace RuleCatalog

namespace Json

theorem Number.agrees_self {n : Number} (finite : n.isFinite = true) : n.agrees n = true := by
  cases n with
  | integer n => exact beq_self_eq_true n
  | float x =>
    have isNumber : x.isNaN = false := by
      simp only [isFinite, Binary64.isFinite, decide_eq_true_eq] at finite
      exact decide_eq_false (Nat.lt_asymm finite)
    simp [agrees, Binary64.numEq, isNumber]

mutual

theorem Value.agrees_self : ∀ {v : Value}, v.Finite → v.agrees v = true
  | .null, _ => rfl
  | .bool _, _ => beq_self_eq_true _
  | .number _, finite => Number.agrees_self finite
  | .string _, _ => beq_self_eq_true _
  | .array _, finite => Value.agreesAll_self finite
  | .object _, finite => Value.agreesMembers_self finite.2

theorem Value.agreesAll_self : ∀ {items : List Value},
    Value.EveryItem (·.isFinite = true) (fun _ => True) items → Value.agreesAll items items = true
  | [], _ => rfl
  | _ :: _, finite =>
    Bool.and_eq_true_iff.mpr ⟨Value.agrees_self finite.1, Value.agreesAll_self finite.2⟩

theorem Value.agreesMembers_self : ∀ {members : List (String × Value)},
    Value.EveryMember (·.isFinite = true) (fun _ => True) members →
      Value.agreesMembers members members = true
  | [], _ => rfl
  | _ :: _, finite => by
    simp only [Value.agreesMembers, BEq.rfl, Value.agrees_self finite.1,
      Value.agreesMembers_self finite.2, Bool.and_self]

end

end Json

theorem RuleType.agrees_self {r : RuleType} (finite : r.definition.Finite) : r.agrees r = true := by
  simp [agrees, Json.Value.agrees_self finite]

end RuleCatalog
