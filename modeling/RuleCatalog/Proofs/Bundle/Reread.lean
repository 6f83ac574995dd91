import RuleCatalog.Proofs.Bundle.RoundTrip
import RuleCatalog.Proofs.Json.Decoded

/-! # Manifests read again

A text may say the same manifest in many ways: members in any order or left out, records as arrays,
an algorithm given twice, a date in any offset. What is read has lost these choices, so that writing
it and reading it again changes nothing.
-/

namespace RuleCatalog

open Json

/-! ## What is read stands in order -/

theorem Metadata.gives_readDate (node : Node) :
    Gives (fun t => ∃ text, Timestamp.parse text = .ok t) (readDate node) := by
  unfold readDate
  exact Node.gives_parsed (fun text _ parsed => ⟨text, eq_ok_of_mapError parsed⟩) node

theorem Metadata.dated_absent : Metadata.absent.Dated := by
  rintro t ⟨⟩

theorem Metadata.gives_decode (node : Node) : Gives Dated (decode node) := by
  have any (node : Node) : Gives (fun _ => True) (Node.text node) := fun _ _ => trivial
  refine Node.gives_record ?start ?keeps node
  case start => exact dated_absent
  case keeps =>
    simp only [fields, List.forall_mem_cons]
    exact ⟨Node.keeps_needed any fun _ _ _ dated => dated,
      Node.keeps_needed any fun _ _ _ dated => dated,
      Node.keeps_needed any fun _ _ _ dated => dated,
      Node.keeps_optional (Node.gives_optional gives_readDate) fun _ _ read _ => read,
      List.forall_mem_nil _⟩

theorem ManifestFile.gives_decode (node : Node) :
    Gives (fun f => Ascending (f.hashes.map Prod.fst)) (decode node) := by
  refine Node.gives_record ?start ?keeps node
  case start => exact List.Pairwise.nil
  case keeps =>
    simp only [fields, List.forall_mem_cons]
    exact ⟨Node.keeps_needed (Q := fun _ => True) (fun _ _ _ => trivial) fun _ _ _ sorted => sorted,
      Node.keeps_optional Node.gives_table fun _ _ sorted _ => sorted, List.forall_mem_nil _⟩

namespace Manifest

theorem Files.gives_decode (node : Node) :
    Gives (fun files => ∀ f ∈ files.profiles ++ files.ruleTypes,
      Ascending (f.hashes.map Prod.fst)) (decode node) := by
  have files := Node.gives_list ManifestFile.gives_decode
  refine Node.gives_record ?start ?keeps node
  case start => exact List.forall_mem_nil _
  case keeps =>
    simp only [fields, List.forall_mem_cons, List.forall_mem_append]
    exact ⟨Node.keeps_optional files fun _ _ read sorted => ⟨read, sorted.2⟩,
      Node.keeps_optional files fun _ _ read sorted => ⟨sorted.1, read⟩, List.forall_mem_nil _⟩

/-- A manifest that comes back from its own text. -/
structure Settled (m : Manifest) : Prop where
  sorted : m.Sorted
  dated : m.metadata.Dated

theorem gives_decode (node : Node) : Gives Settled (decode node) := by
  refine Node.gives_record ?start ?keeps node
  case start => exact ⟨List.forall_mem_nil _, Metadata.dated_absent⟩
  case keeps =>
    simp only [fields, List.forall_mem_cons]
    exact ⟨Node.keeps_needed Metadata.gives_decode fun _ _ dated settled => ⟨settled.sorted, dated⟩,
      Node.keeps_optional Files.gives_decode fun _ _ sorted settled => ⟨sorted, settled.dated⟩,
      List.forall_mem_nil _⟩

theorem settled_ofJson {text : String} {m : Manifest} (read : ofJson text = .ok m) : m.Settled := by
  refine gives_bind (gives_decode _) (fun m settled => ?_) m read
  split
  · exact gives_ok settled
  · exact gives_error

theorem Settled.ofJson_toJson {m : Manifest} (settled : m.Settled) : ofJson m.toJson = .ok m :=
  (Manifest.ofJson_toJson settled.sorted).trans (congrArg _ (told_eq settled.dated))

/-! ## Reading what was written -/

/-- A manifest that was read from any text comes back from its own text, and so does a manifest that
was made for any parts whose date, if they have one, was read from a text. -/
theorem toJson_reread :
    (∀ text m, ofJson text = .ok m → ofJson m.toJson = .ok m) ∧
      ∀ p : BundleParts, p.metadata.Dated → ofJson p.manifest.toJson = .ok p.manifest := by
  constructor
  case left =>
    intro text m read
    exact (settled_ofJson read).ofJson_toJson
  case right =>
    intro p dated
    exact Settled.ofJson_toJson ⟨BundleParts.sorted_manifest, dated⟩

/-- A text with records as arrays, an algorithm given twice, an unknown member, and a leap second
in a far year and another offset. -/
def roundabout : String :=
  "\x7b\"files\":\x7b\"profiles\":[[\"p.yaml\",\x7b\"b\":\"1\",\"a\":\"2\",\"b\":\"3\"\x7d]]," ++
  "\"more\":[1.5e3]\x7d,\"metadata\":[\"n/s\",\"caf\\u00e9\",\"?\",\"+12016-12-31 23:59:60.5 +00:01\"]\x7d"

/-- Parts with an empty profile. -/
def emptyProfile (metadata : Metadata) : BundleParts := ⟨metadata, [("p.yaml", .empty)], []⟩

theorem toJson_reread_roundabout : ∃ m, ofJson roundabout = .ok m ∧
    m.metadata.date.map Timestamp.text = some "+12016-12-31T23:58:60.500Z" ∧
    m.profiles = [⟨"p.yaml", [("a", "2"), ("b", "3")]⟩] ∧ ofJson m.toJson = .ok m ∧
    ofJson (emptyProfile m.metadata).manifest.toJson = .ok (emptyProfile m.metadata).manifest := by
  have evaluated : (ofJson roundabout).toOption.any (fun m =>
      m.metadata.date.map Timestamp.text == some "+12016-12-31T23:58:60.500Z" &&
        m.profiles == [⟨"p.yaml", [("a", "2"), ("b", "3")]⟩]) = true := by decide +kernel
  cases read : ofJson roundabout with
  | error e => simp [read, Except.toOption] at evaluated
  | ok m =>
    simp only [read, Except.toOption, Option.any_some, Bool.and_eq_true, beq_iff_eq] at evaluated
    exact ⟨m, rfl, evaluated.1, evaluated.2, toJson_reread.1 roundabout m read,
      toJson_reread.2 (emptyProfile m.metadata) (settled_ofJson read).dated⟩

end Manifest

end RuleCatalog
