import RuleCatalog.Content.Document
import RuleCatalog.Proofs.Json.Records
import RuleCatalog.Proofs.Result

/-! # Definitions read back

What becomes of a rule type and of a profile between the text under which a store keeps them and the
next reading of that text.
-/

namespace RuleCatalog

open Json

/-! ## Rule types -/

namespace RuleType

/-- The values of the members of a written rule type. -/
def values (r : RuleType) : List (Option Value) :=
  [some (.string r.version), some (.string r.name), r.displayName.map .string,
    some (.string r.description), some (.string r.guidance), some (.string r.severity.name),
    some r.definition]

theorem toValue_eq (r : RuleType) : r.toValue = .object (written (fields form) r.values) := by
  obtain ⟨version, name, displayName, description, guidance, severity, definition⟩ := r
  cases displayName <;> rfl

/-- The rule type as the text under which it is stored is read. -/
def reread? (r : RuleType) : Option RuleType :=
  if r.definition.nesting ≤ 126 then
    r.definition.reread?.map fun definition => { r with definition := definition }
  else none

theorem readBack_values (r : RuleType) :
    readBack 127 (fields form) r.values (named "") =
      (Node.valueOf 127 (draftOf r.definition)).map fun definition =>
        { r with definition := definition } := by
  have known : Node.known (Severity.names.map Prod.fst) r.severity.name = .ok r.severity.name := by
    cases r.severity <;> rfl
  obtain ⟨version, name, displayName, description, guidance, severity, definition⟩ := r
  cases displayName <;>
    simp [values, readBack, fields, known, Except.map, bind, Except.bind,
      Severity.ofName_name] <;>
    cases Node.valueOf 127 (draftOf definition) <;> rfl

/-- Whether the definition comes from a document. -/
def Ordinary (r : RuleType) : Prop := r.definition.Ordinary

/-- A rule type is read from the text under which it is stored. -/
theorem ofJson_toJson {r : RuleType} (ordinary : r.Ordinary) :
    ofJson r.toJson = orMalformed r.reread? := by
  have whole : r.toValue.Finite := by
    have finite := Value.Ordinary.finite ordinary
    obtain ⟨version, name, displayName, description, guidance, severity, definition⟩ := r
    cases displayName <;>
      simpa [toValue, optionalMember, Value.Every, Value.EveryMember] using finite
  have definition := Node.valueOf_draftOf r.definition 126 ordinary
  rw [ofJson, toJson, ofString_compact whole, Json.Document.decode, toValue_eq]
  have record : decode form ⟨draftOf (.object (written (fields form) r.values)), depthLimit⟩ =
      readBack 127 (fields form) r.values (named "") :=
    record_written "struct RuleType" (by simp [fields, Field.optional, Field.needed])
      (by simp [fields, values, Complete, Field.optional, Field.needed])
  rw [record, readBack_values, definition, map_orMalformed, reread?]
  split
  · cases r.definition.reread? <;> rfl
  · rfl

/-- Whether a rule type is read from its text as it was. -/
def Kept (r : RuleType) : Prop := r.definition.Kept 126

theorem reread?_eq_some_self_iff {r : RuleType} (ordinary : r.Ordinary) :
    r.reread? = some r ↔ r.Kept := by
  rw [Kept, Value.Kept, ← Value.Ordinary.reread?_eq_some_self_iff ordinary, reread?]
  obtain ⟨version, name, displayName, description, guidance, severity, definition⟩ := r
  by_cases shallow : definition.nesting ≤ 126 <;> simp [shallow]

end RuleType

/-! ## Profiles -/

namespace ProfileRule

/-- The values of the members of a written rule. -/
def values (r : ProfileRule) : List (Option Value) :=
  [some (.string r.ruleType), r.name.map .string, some (.string r.entity), some r.definition]

theorem toValue_eq (r : ProfileRule) : r.toValue = .object (written (fields form) r.values) := by
  obtain ⟨ruleType, name, entity, definition⟩ := r
  cases name <;> rfl

theorem finite_toValue {r : ProfileRule} (ordinary : r.definition.Ordinary) :
    r.toValue.Finite := by
  have finite := ordinary.finite
  obtain ⟨ruleType, name, entity, definition⟩ := r
  cases name <;> simpa [toValue, optionalMember, Value.Every, Value.EveryMember] using finite

/-- The rule as the text under which its profile is stored is read. -/
def reread? (r : ProfileRule) : Option ProfileRule :=
  if r.definition.nesting ≤ 124 then
    r.definition.reread?.map fun definition => { r with definition := definition }
  else none

theorem readBack_values (r : ProfileRule) :
    readBack 125 (fields form) r.values (ofType "") =
      (Node.valueOf 125 (draftOf r.definition)).map fun definition =>
        { r with definition := definition } := by
  obtain ⟨ruleType, name, entity, definition⟩ := r
  cases name <;> simp [values, readBack, fields, Except.map, bind, Except.bind] <;>
    cases Node.valueOf 125 (draftOf definition) <;> rfl

/-- A rule is read back two levels inside its profile. -/
theorem decode_toValue {r : ProfileRule} (ordinary : r.definition.Ordinary) :
    decode form ⟨draftOf r.toValue, 126⟩ = orMalformed r.reread? := by
  have definition := Node.valueOf_draftOf r.definition 124 ordinary
  have record : decode form ⟨draftOf (.object (written (fields form) r.values)), 126⟩ =
      readBack 125 (fields form) r.values (ofType "") :=
    record_written "struct ProfileRule" (by simp [fields, Field.optional, Field.needed])
      (by simp [fields, values, Complete, Field.optional, Field.needed])
  rw [toValue_eq, record, readBack_values, definition, map_orMalformed, reread?]
  split <;> rfl

/-- Whether a rule is read from the text of its profile as it was. -/
def Kept (r : ProfileRule) : Prop := r.definition.Kept 124

theorem reread?_eq_some_self_iff {r : ProfileRule} (ordinary : r.definition.Ordinary) :
    r.reread? = some r ↔ r.Kept := by
  rw [Kept, Value.Kept, ← ordinary.reread?_eq_some_self_iff, reread?]
  obtain ⟨ruleType, name, entity, definition⟩ := r
  by_cases shallow : definition.nesting ≤ 124 <;> simp [shallow]

end ProfileRule

namespace Profile

/-- The values of the members of a written profile. -/
def values (p : Profile) : List (Option Value) :=
  [some (.string p.name), p.displayName.map .string, some (.array (p.labels.map .string)),
    p.remediate.map .string, p.alert.map .string, some (.array (p.rules.map ProfileRule.toValue))]

theorem toValue_eq (p : Profile) : p.toValue = .object (written (fields form) p.values) := by
  obtain ⟨name, displayName, labels, remediate, alert, rules⟩ := p
  cases displayName <;> cases remediate <;> cases alert <;> rfl

/-- The profile as the text under which it is stored is read. -/
def reread? (p : Profile) : Option Profile :=
  (p.rules.mapM ProfileRule.reread?).map fun rules => { p with rules := rules }

/-- Written labels are read back. -/
theorem labels_array (labels : List String) (depth : Nat) :
    Node.list Node.text ⟨draftOf (.array (labels.map .string)), depth + 2⟩ = .ok labels := by
  rw [list_array, List.mapM_map]
  exact (mapM_ok fun label _ => text_string).trans (congrArg _ (List.map_id' labels))

theorem readBack_values (p : Profile) :
    readBack 127 (fields form) p.values (named "") =
      (Node.list (ProfileRule.decode form)
        ⟨draftOf (.array (p.rules.map ProfileRule.toValue)), 127⟩).map fun rules =>
          { p with rules := rules } := by
  obtain ⟨name, displayName, labels, remediate, alert, rules⟩ := p
  have known := labels_array labels 125
  cases displayName <;> cases remediate <;> cases alert <;>
    simp [values, readBack, fields, known, Except.map, bind, Except.bind] <;>
    cases Node.list (ProfileRule.decode form)
      ⟨draftOf (.array (rules.map ProfileRule.toValue)), 127⟩ <;> rfl

/-- Whether the definitions come from a document. -/
def Ordinary (p : Profile) : Prop := ∀ r ∈ p.rules, r.definition.Ordinary

/-- A profile is read from the text under which it is stored. -/
theorem ofJson_toJson {p : Profile} (ordinary : p.Ordinary) :
    ofJson p.toJson = orMalformed p.reread? := by
  have whole : p.toValue.Finite := by
    obtain ⟨name, displayName, labels, remediate, alert, rules⟩ := p
    have inside : Value.EveryItem (·.isFinite = true) (fun _ => True)
        (rules.map ProfileRule.toValue) :=
      everyItem_iff.mpr (List.forall_mem_map.mpr fun r member =>
        ProfileRule.finite_toValue (ordinary r member))
    have texts : Value.EveryItem (·.isFinite = true) (fun _ => True) (labels.map .string) :=
      everyItem_iff.mpr (List.forall_mem_map.mpr fun _ _ => trivial)
    cases displayName <;> cases remediate <;> cases alert <;>
      simp [toValue, optionalMember, Value.Every, Value.EveryMember, inside, texts]
  have rules : Node.list (ProfileRule.decode form)
      ⟨draftOf (.array (p.rules.map ProfileRule.toValue)), 127⟩ =
        orMalformed (p.rules.mapM ProfileRule.reread?) := by
    rw [list_array, List.mapM_map]
    exact mapM_orMalformed fun r member => ProfileRule.decode_toValue (ordinary r member)
  have record : decode form ⟨draftOf (.object (written (fields form) p.values)), depthLimit⟩ =
      readBack 127 (fields form) p.values (named "") :=
    record_written "struct Profile" (by simp [fields, Field.optional, Field.needed])
      (by simp [fields, values, Complete, Field.optional, Field.needed])
  rw [ofJson, toJson, ofString_compact whole, Json.Document.decode, toValue_eq, record,
    readBack_values, rules, map_orMalformed, reread?]
  cases p.rules.mapM ProfileRule.reread? <;> rfl

/-- Whether a profile is read from its text as it was. -/
def Kept (p : Profile) : Prop := ∀ r ∈ p.rules, r.Kept

theorem mapM_eq_some_self_iff {α : Type} {f : α → Option α} {l : List α} :
    l.mapM f = some l ↔ ∀ a ∈ l, f a = some a := by
  induction l with
  | nil => simp
  | cons a l ih =>
    rw [List.mapM_cons, List.forall_mem_cons, ← ih]
    cases f a with
    | none => simp
    | some b => cases l.mapM f <;> simp

theorem reread?_eq_some_self_iff {p : Profile} (ordinary : p.Ordinary) :
    p.reread? = some p ↔ p.Kept := by
  have rules : p.reread? = some p ↔ p.rules.mapM ProfileRule.reread? = some p.rules := by
    rw [reread?]
    obtain ⟨name, displayName, labels, remediate, alert, rules⟩ := p
    simp
  rw [rules, mapM_eq_some_self_iff]
  exact forall₂_congr fun r member => ProfileRule.reread?_eq_some_self_iff (ordinary r member)

end Profile

end RuleCatalog
