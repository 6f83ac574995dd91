import RuleCatalog.Bundle.Manifest
import RuleCatalog.Proofs.Json.Records
import RuleCatalog.Proofs.Result
import RuleCatalog.Proofs.Text.Encoded
import RuleCatalog.Proofs.Time.Read

/-! # Manifests read back

The manifest that is read from the bytes of a written manifest is the one that was written, with the
date that its text tells.
-/

namespace RuleCatalog

open Json

/-! ## Metadata -/

namespace Metadata

/-- The values of the members of written metadata. -/
def values (m : Metadata) : List (Option Value) :=
  [some (.string m.space), some (.string m.name), some (.string m.version),
    m.date.map fun date => .string date.text]

theorem toValue_eq (m : Metadata) : m.toValue = .object (written fields m.values) := by
  obtain ⟨space, name, version, date⟩ := m
  cases date <;> rfl

/-- Metadata with the date that its text tells. -/
def told (m : Metadata) : Metadata := { m with date := m.date.map Timestamp.told }

/-- The date, if there is one, was read from a text. -/
def Dated (m : Metadata) : Prop := ∀ t ∈ m.date, ∃ text, Timestamp.parse text = .ok t

theorem Dated.told_eq {m : Metadata} (dated : m.Dated) : m.told = m := by
  obtain ⟨space, name, version, date⟩ := m
  cases date with
  | none => rfl
  | some t => simp only [told, Option.map_some, Timestamp.told_eq_self_iff_parse.mpr (dated t rfl)]

theorem readDate_text (t : Timestamp) (depth : Nat) :
    readDate ⟨draftOf (.string t.text), depth⟩ = .ok t.told := by
  simp only [readDate, Node.parsed, Node.textAs, draftOf, liftFault, bind, Except.bind,
    Timestamp.parse_text, Except.mapError]
  rfl

theorem decode_toValue (m : Metadata) (depth : Nat) :
    decode ⟨draftOf m.toValue, depth + 2⟩ = .ok m.told := by
  have record : decode ⟨draftOf (.object (written fields m.values)), depth + 2⟩ =
      readBack (depth + 1) fields m.values absent :=
    record_written "struct BundleMetadata" (by simp [fields, Field.optional, Field.needed])
      (by simp [fields, values, Complete, Field.optional, Field.needed])
  rw [toValue_eq, record]
  obtain ⟨space, name, version, date⟩ := m
  cases date with
  | none => simp [values, readBack, fields, absent, told, Except.map, bind, Except.bind]
  | some t =>
    simp [values, readBack, fields, absent, told, readDate_text, Except.map, bind, Except.bind]

end Metadata

/-! ## Files -/

namespace ManifestFile

/-- The values of the members of a written file. -/
def values (f : ManifestFile) : List (Option Value) :=
  [some (.string f.name),
    some (.object (f.hashes.map fun (algorithm, digest) => (algorithm, .string digest)))]

theorem decode_toValue {f : ManifestFile} (sorted : Ascending (f.hashes.map Prod.fst))
    (depth : Nat) : decode ⟨draftOf f.toValue, depth + 3⟩ = .ok f := by
  have record : decode ⟨draftOf (.object (written fields f.values)), depth + 3⟩ =
      readBack (depth + 2) fields f.values ⟨"", []⟩ :=
    record_written "struct ManifestFile" (by simp [fields, Field.optional, Field.needed])
      (by simp [fields, values, Complete, Field.optional, Field.needed])
  have same : f.toValue = .object (written fields f.values) := rfl
  rw [same, record]
  simp [values, readBack, fields, table_strings sorted, Except.map, bind, Except.bind]

end ManifestFile

/-! ## Manifests -/

namespace Manifest

/-- Whether the digests of every file stand in the order of the algorithms' names. -/
def Sorted (m : Manifest) : Prop :=
  ∀ f ∈ m.profiles ++ m.ruleTypes, Ascending (f.hashes.map Prod.fst)

/-- A manifest with the date that its text tells. -/
def told (m : Manifest) : Manifest := { m with metadata := m.metadata.told }

theorem told_eq {m : Manifest} (dated : m.metadata.Dated) : m.told = m := by
  rw [told, dated.told_eq]

theorem files_array {files : List ManifestFile}
    (sorted : ∀ f ∈ files, Ascending (f.hashes.map Prod.fst)) (depth : Nat) :
    Node.list ManifestFile.decode ⟨draftOf (.array (files.map ManifestFile.toValue)), depth + 4⟩ =
      .ok files := by
  rw [list_array, List.mapM_map]
  exact (mapM_ok fun f member => ManifestFile.decode_toValue (sorted f member) depth).trans
    (congrArg _ (List.map_id' files))

/-- The values of the members of the written files. -/
def fileValues (m : Manifest) : List (Option Value) :=
  [some (.array (m.profiles.map ManifestFile.toValue)),
    some (.array (m.ruleTypes.map ManifestFile.toValue))]

theorem decode_files {m : Manifest} (sorted : m.Sorted) (depth : Nat) :
    Files.decode ⟨draftOf (.object (written Files.fields m.fileValues)), depth + 5⟩ =
      .ok ⟨m.profiles, m.ruleTypes⟩ := by
  obtain ⟨profiles, ruleTypes⟩ := List.forall_mem_append.mp sorted
  have record : Files.decode ⟨draftOf (.object (written Files.fields m.fileValues)), depth + 5⟩ =
      readBack (depth + 4) Files.fields m.fileValues ⟨[], []⟩ :=
    record_written "struct ManifestFiles" (by simp [Files.fields, Field.optional])
      (by simp [Files.fields, fileValues, Complete, Field.optional])
  rw [record]
  simp [fileValues, readBack, Files.fields, files_array profiles, files_array ruleTypes, Except.map,
    bind, Except.bind]

/-- The values of the members of a written manifest. -/
def values (m : Manifest) : List (Option Value) :=
  [some m.metadata.toValue, some (.object (written Files.fields m.fileValues))]

theorem decode_toValue {m : Manifest} (sorted : m.Sorted) (depth : Nat) :
    decode ⟨draftOf m.toValue, depth + 6⟩ = .ok m.told := by
  have record : decode ⟨draftOf (.object (written fields m.values)), depth + 6⟩ =
      readBack (depth + 5) fields m.values ⟨Metadata.absent, [], []⟩ :=
    record_written "struct BundleManifest" (by simp [fields, Field.optional, Field.needed])
      (by simp [fields, values, Complete, Field.optional, Field.needed])
  have same : m.toValue = .object (written fields m.values) := rfl
  rw [same, record]
  simp [values, readBack, fields, Metadata.decode_toValue, decode_files sorted, told, Except.map,
    bind, Except.bind]

theorem finite_toValue (m : Manifest) : m.toValue.Finite := by
  have files : ∀ files : List ManifestFile,
      Value.EveryItem (·.isFinite = true) (fun _ => True) (files.map ManifestFile.toValue) := by
    intro files
    refine everyItem_iff.mpr (List.forall_mem_map.mpr fun f _ => ⟨trivial, trivial, ?_, trivial⟩)
    exact ⟨trivial, everyMember_iff.mpr (List.forall_mem_map.mpr fun _ _ => trivial)⟩
  have metadata : m.metadata.toValue.Finite := by
    obtain ⟨⟨space, name, version, date⟩, -, -⟩ := m
    cases date <;> simp [Metadata.toValue, optionalMember, Value.Every, Value.EveryMember]
  exact ⟨trivial, metadata, ⟨trivial, files m.profiles, files m.ruleTypes, trivial⟩, trivial⟩

/-- A manifest is read from its text. -/
theorem ofJson_toJson {m : Manifest} (sorted : m.Sorted) : ofJson m.toJson = .ok m.told := by
  have document : Document.ofString m.toJson = ⟨draftOf m.toValue, true⟩ :=
    ofString_pretty m.finite_toValue
  have decoded : decode ⟨draftOf m.toValue, depthLimit⟩ = .ok m.told := decode_toValue sorted 122
  simp only [ofJson, document, Document.decode, decoded, bind, Except.bind]
  rfl

/-- A manifest is read from the bytes of its text. -/
theorem ofBytes_toJson {m : Manifest} (sorted : m.Sorted) :
    ofBytes m.toJson.toUTF8 = .ok m.told := by
  rw [ofBytes, Document.ofBytes, Text.glyphs_toUTF8]
  exact ofJson_toJson sorted

end Manifest

end RuleCatalog
