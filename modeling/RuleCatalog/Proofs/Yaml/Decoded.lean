import RuleCatalog.Proofs.Content.Stored

/-! # What a YAML document decodes to

The free-form values in the content that a YAML document decodes to: their integers fit into 64
bits, their other numbers are finite, and the members of their objects stand in ascending order.
-/

namespace RuleCatalog

namespace Json

/-! ## Members in order -/

section InsertMember

variable {α : Type} {name other : String} {value : α} {members : List (String × α)}

theorem fst_insertMember_subset (member : other ∈ (insertMember name value members).map Prod.fst) :
    other = name ∨ other ∈ members.map Prod.fst := by
  induction members with
  | nil => simpa [insertMember] using member
  | cons first rest ih =>
    simp only [insertMember] at member
    split at member
    · simpa using member
    · split at member
      · simp only [List.map_cons, List.mem_cons] at member ⊢
        tauto
      · simp only [List.map_cons, List.mem_cons] at member ⊢
        rcases member with here | later
        · exact .inr (.inl here)
        · exact (ih later).imp_right .inr

theorem ascending_insertMember (ascending : Ascending (members.map Prod.fst)) :
    Ascending ((insertMember name value members).map Prod.fst) := by
  induction members with
  | nil => simp [insertMember, Ascending]
  | cons first rest ih =>
    obtain ⟨below, later⟩ := List.pairwise_cons.mp ascending
    simp only [insertMember]
    split
    · next before =>
      refine List.pairwise_cons.mpr ⟨?_, ascending⟩
      intro other member
      rcases List.mem_cons.mp member with rfl | member
      · exact before
      · exact String.lt_trans before (below other member)
    · next notBefore =>
      split
      · next same =>
        subst same
        exact List.pairwise_cons.mpr ⟨below, later⟩
      · next apart =>
        have behind : first.1 < name :=
          Std.lt_of_le_of_ne (String.not_lt.mp notBefore) (Ne.symm apart)
        refine List.pairwise_cons.mpr ⟨?_, ih later⟩
        intro other member
        rcases fst_insertMember_subset member with rfl | member
        · exact behind
        · exact below other member

end InsertMember

variable {number : Number → Prop} {names : List String → Prop}

theorem mem_insertMember {α : Type} {name : String} {value : α} {members : List (String × α)}
    {member : String × α} (inserted : member ∈ insertMember name value members) :
    member = (name, value) ∨ member ∈ members := by
  induction members with
  | nil => simpa [insertMember] using inserted
  | cons first rest ih =>
    simp only [insertMember] at inserted
    grind

theorem everyMember_insertMember {name : String} {value : Value}
    {members : List (String × Value)} (here : value.Every number names)
    (every : Value.EveryMember number names members) :
    Value.EveryMember number names (insertMember name value members) := by
  rw [everyMember_iff] at every ⊢
  intro member inserted
  rcases mem_insertMember inserted with rfl | old
  · exact here
  · exact every member old

end Json

namespace Yaml

open Json (Value Number)

variable {α β σ : Type}

/-! ## What decoding gives -/

/-- If decoding succeeds, its result has a property. -/
def Decode.Gives (P : α → Prop) (x : Decode α) : Prop :=
  ∀ followed a after, x.run followed = .ok (a, after) → P a

namespace Decode

variable {P : α → Prop} {Q : β → Prop}

theorem gives_pure {a : α} (holds : P a) : Gives P (pure a) := by
  intro followed b after run
  obtain ⟨rfl, -⟩ := Prod.mk.inj (Except.ok.inj run)
  exact holds

theorem gives_throw {e : Error} : Gives P (throw e) := by
  intro followed a after run
  cases run

theorem gives_bind {x : Decode α} {f : α → Decode β} (first : Gives P x)
    (next : ∀ a, P a → Gives Q (f a)) : Gives Q (x >>= f) := by
  intro followed b after run
  rw [StateT.run_bind] at run
  cases start : x.run followed with
  | error e => simp [start, bind, Except.bind] at run
  | ok start' =>
    obtain ⟨a, between⟩ := start'
    rw [start] at run
    exact next a (first followed a between start) between b after run

theorem gives_trivial (x : Decode α) : Gives (fun _ => True) x := fun _ _ _ _ => trivial

/-- Where nothing has to be known of the first result. -/
theorem gives_bind_any {x : Decode α} {f : α → Decode β} (next : ∀ a, Gives Q (f a)) :
    Gives Q (x >>= f) :=
  gives_bind (gives_trivial x) fun a _ => next a

theorem gives_mapM {f : α → Decode β} (each : ∀ a, Gives Q (f a)) (l : List α) :
    Gives (fun bs => ∀ b ∈ bs, Q b) (l.mapM f) := by
  induction l with
  | nil => exact gives_pure nofun
  | cons a l ih =>
    rw [List.mapM_cons]
    refine gives_bind (each a) fun b here => gives_bind ih fun bs later => gives_pure ?_
    exact List.forall_mem_cons.mpr ⟨here, later⟩

theorem gives_foldlM {f : β → α → Decode β} (step : ∀ b a, Q b → Gives Q (f b a)) (l : List α)
    {start : β} (holds : Q start) : Gives Q (l.foldlM f start) := by
  induction l generalizing start with
  | nil => exact gives_pure holds
  | cons a l ih => exact gives_bind (step start a holds) fun b later => ih later

end Decode

open Decode

/-! ## Free-form values -/

theorem inRange_of_integer? {s : String} {n : Int} (read : integer? s = some (.integer n)) :
    Number.InRange (.integer n) := by
  obtain ⟨m, -, kind⟩ := Option.bind_eq_some_iff.mp read
  split at kind
  · next range =>
    obtain rfl : m = n := by simpa using kind
    exact range
  · split at kind <;> simp at kind

/-- An integer has its range from the scalar. -/
theorem Kind.inRange_ofPlain {s : String} {n : Int} (plain : Kind.ofPlain s = .integer n) :
    Number.InRange (.integer n) := by
  unfold Kind.ofPlain at plain
  split at plain
  · cases plain
  · split at plain
    · cases plain
    · split at plain
      · next read =>
        subst plain
        exact inRange_of_integer? read
      · split at plain
        · cases plain
        · split at plain <;> cases plain

/-- Whatever a tag asks for. -/
theorem Kind.inRange_ofCore? {tag : Tag} {s : String} {n : Int}
    (core : Kind.ofCore? tag s = some (.ok (.integer n))) : Number.InRange (.integer n) := by
  unfold Kind.ofCore? at core
  split at core
  · split at core <;> simp at core
  · split at core
    · split at core
      · next read =>
        obtain rfl : _ = Kind.integer n := by simpa using core
        exact inRange_of_integer? read
      · simp at core
    · split at core
      · split at core <;> simp at core
      · split at core
        · split at core <;> simp at core
        · simp at core

theorem Scalar.inRange_kind {bare : Bool} {s : Scalar} {n : Int}
    (kind : s.kind bare = .ok (.integer n)) : Number.InRange (.integer n) := by
  have plainly : (if s.plain then Kind.ofPlain s.text else .text s.text) = .integer n →
      Number.InRange (.integer n) := by
    split
    · exact Kind.inRange_ofPlain
    · exact nofun
  simp only [Scalar.kind] at kind
  generalize (if s.plain then Kind.ofPlain s.text else .text s.text) = k at plainly kind
  split at kind
  · exact plainly (Except.ok.inj kind)
  · split at kind
    · exact plainly (Except.ok.inj kind)
    · split at kind
      · next core =>
        subst kind
        exact Kind.inRange_ofCore? core
      · split at kind
        · exact plainly (Except.ok.inj kind)
        · cases kind

/-- The value of a scalar. -/
theorem gives_scalar {bare : Bool} {s : Scalar} :
    Gives Value.Ordinary (kindOf bare s >>= Kind.value) := by
  have known : Gives (fun kind => ∀ n, kind = .integer n → Number.InRange (.integer n))
      (kindOf bare s) := by
    unfold kindOf
    split
    · next kind read =>
      apply gives_pure
      rintro n rfl
      exact Scalar.inRange_kind read
    · exact gives_throw
  refine gives_bind known fun kind range => ?_
  cases kind with
  | unit | bool b | text s => exact gives_pure trivial
  | integer n => exact gives_pure (range n rfl)
  | wideInteger n => exact gives_throw
  | float x =>
    apply gives_pure
    split
    · next finite => exact finite
    · trivial

/-- Every free-form value is ordinary. -/
theorem gives_valueOf (context : Context) (depth : Nat) (node : Node) :
    Gives Value.Ordinary (valueOf context depth node) := by
  have unexpectedTag : ∀ {tagged : Prop} [Decidable tagged] {x : Decode Value},
      Gives Value.Ordinary x → Gives Value.Ordinary (do
        if tagged then refuse (.invalidType .tagged "any valid JSON value")
        x) := by
    intro tagged _ x ordinary
    dsimp only
    split
    · exact gives_bind_any fun _ => ordinary
    · exact ordinary
  unfold valueOf
  refine gives_bind_any fun (node, _) => ?_
  match node, depth with
  | .missing, _ | .alias _, _ => exact gives_throw
  | .nothing, _ => exact gives_pure trivial
  | .scalar _ s, _ => exact unexpectedTag gives_scalar
  | .sequence _ _ _ _, 0 | .mapping _ _ _ _, 0 => exact unexpectedTag gives_throw
  | .sequence _ _ items _, depth + 1 =>
    apply unexpectedTag
    refine gives_bind (gives_mapM (gives_valueOf context depth) items) fun values ordinary => ?_
    exact gives_bind_any fun _ => gives_pure (Json.everyItem_iff.mpr ordinary)
  | .mapping _ _ entries _, depth + 1 =>
    apply unexpectedTag
    have members : Gives (fun soFar : List (String × Value) × String =>
        Value.Ordinary (.object soFar.1)) (entries.foldlM (fun soFar entry => do
          let name ← textOf context soFar.2 entry.1
          let value ← valueOf context depth entry.2
          return (Json.insertMember name value soFar.1, "a string")) ([], "a string key")) := by
      refine gives_foldlM (fun soFar entry ordinary => ?_) entries ⟨List.Pairwise.nil, trivial⟩
      refine gives_bind_any fun name => gives_bind (gives_valueOf context depth entry.2) ?_
      intro value here
      exact gives_pure ⟨Json.ascending_insertMember ordinary.1,
        Json.everyMember_insertMember here ordinary.2⟩
    refine gives_bind members fun soFar ordinary => ?_
    exact gives_bind_any fun _ => gives_pure ordinary
termination_by depth

/-! ## Lists and records -/

theorem gives_unexpected {P : α → Prop} (context : Context) (expected : String) (node : Node) :
    Gives P (unexpected context expected node) := by
  unfold unexpected
  split
  · exact gives_throw
  · exact gives_throw
  · exact gives_throw
  · exact gives_bind_any fun _ => gives_throw
  · exact gives_throw
  · exact gives_throw

theorem gives_list {Q : α → Prop} {read : Place → Decode α} (gives : ∀ p, Gives Q (read p))
    (p : Place) : Gives (fun items => ∀ a ∈ items, Q a) (p.list read) := by
  refine gives_bind_any fun p => ?_
  split
  · refine gives_bind_any fun depth => ?_
    refine gives_bind (gives_mapM (fun item => gives (p.child depth item)) _) fun items each => ?_
    exact gives_bind_any fun _ => gives_pure each
  · split
    · exact gives_pure nofun
    · exact gives_unexpected _ _ _

/-- If a field can be read, the change that it makes keeps a property of the record. -/
def Keeps (P : σ → Prop) (field : Field Place Decode σ) : Prop :=
  ∀ p, Gives (fun change => ∀ r, P r → P (change r)) (field.read p)

section Fields

variable {P : σ → Prop} {name : String} {read : Place → Decode α} {put : α → σ → σ}

theorem keeps_needed {Q : α → Prop} (gives : ∀ p, Gives Q (read p))
    (keeps : ∀ a r, Q a → P r → P (put a r)) : Keeps P (.needed name read put) := fun p =>
  gives_bind (gives p) fun a holds => gives_pure fun r => keeps a r holds

theorem keeps_optional {Q : α → Prop} (gives : ∀ p, Gives Q (read p))
    (keeps : ∀ a r, Q a → P r → P (put a r)) : Keeps P (.optional name read put) := fun p =>
  gives_bind (gives p) fun a holds => gives_pure fun r => keeps a r holds

end Fields

variable {P : σ → Prop} {fields : List (Field Place Decode σ)}

theorem gives_recordEntries (keeps : ∀ field ∈ fields, Keeps P field) (p : Place) (depth : Nat)
    (entries : List (Node × Node)) {soFar : Progress σ} (holds : P soFar.value) :
    Gives (fun done => P done.value) (p.recordEntries depth fields entries soFar) := by
  induction entries generalizing soFar with
  | nil => exact gives_pure holds
  | cons entry rest ih =>
    obtain ⟨key, value⟩ := entry
    refine gives_bind_any fun name => ?_
    split
    · dsimp only
      split
      · exact gives_bind_any fun _ => ih holds
      · exact ih holds
    · next field found =>
      have change := keeps field (List.mem_of_find?_eq_some found) (p.child depth value)
      dsimp only
      split
      · exact gives_bind_any fun _ => gives_bind change fun change keeps => ih (keeps _ holds)
      · exact gives_bind change fun change keeps => ih (keeps _ holds)

/-- A record has a property that it has without any member and that every field keeps. -/
theorem gives_record (title : String) (keeps : ∀ field ∈ fields, Keeps P field) {absent : σ}
    (holds : P absent) (p : Place) : Gives P (p.record title fields absent) := by
  have complete : ∀ done : Progress σ, P done.value → Gives P (Place.complete fields done) := by
    intro done holds
    unfold Place.complete
    split
    · exact gives_throw
    · exact gives_pure holds
  refine gives_bind_any fun p => ?_
  split
  · refine gives_bind_any fun depth => ?_
    refine gives_bind (gives_recordEntries keeps p depth _ holds) fun done holds => ?_
    exact gives_bind_any fun _ => complete done holds
  · split
    · exact complete _ holds
    · exact gives_unexpected _ _ _

/-- What decoding a whole document gives. -/
theorem decode_gives {P : α → Prop} {read : Place → Decode α} (gives : ∀ p, Gives P (read p))
    {d : Document} {a : α} (decoded : d.decode read = .ok a) : P a := by
  unfold Document.decode at decoded
  cases run : (read ⟨d.context, depthLimit, d.root, false⟩).run 0 with
  | error e => simp [run, bind, Except.bind] at decoded
  | ok result =>
    obtain ⟨b, after⟩ := result
    simp only [run, bind, Except.bind] at decoded
    split at decoded
    · cases decoded
    · split at decoded
      · cases decoded
      · obtain rfl := Except.ok.inj decoded
        exact gives _ 0 b after run

end Yaml

/-! ## Content -/

open Yaml Yaml.Decode

theorem ProfileRule.gives_decode (p : Place) :
    Gives (fun r : ProfileRule => r.definition.Ordinary) (ProfileRule.decode form p) := by
  refine gives_record "struct ProfileRule" ?_ trivial p
  simp only [ProfileRule.fields, List.forall_mem_cons, List.not_mem_nil, false_imp_iff,
    implies_true, and_true]
  exact ⟨keeps_needed (fun p => gives_trivial _) fun _ _ _ => id,
    keeps_optional (fun p => gives_trivial _) fun _ _ _ => id,
    keeps_optional (fun p => gives_trivial _) fun _ _ _ => id,
    keeps_optional (fun p => gives_valueOf _ _ _) fun _ _ ordinary _ => ordinary⟩

theorem RuleType.gives_decode (p : Place) :
    Gives RuleType.Ordinary (RuleType.decode form p) := by
  refine gives_record "struct RuleType" ?_ trivial p
  simp only [RuleType.fields, List.forall_mem_cons, List.not_mem_nil, false_imp_iff,
    implies_true, and_true]
  exact ⟨keeps_optional (fun p => gives_trivial _) fun _ _ _ => id,
    keeps_needed (fun p => gives_trivial _) fun _ _ _ => id,
    keeps_optional (fun p => gives_trivial _) fun _ _ _ => id,
    keeps_optional (fun p => gives_trivial _) fun _ _ _ => id,
    keeps_optional (fun p => gives_trivial _) fun _ _ _ => id,
    keeps_optional (fun p => gives_trivial _) fun _ _ _ => id,
    keeps_optional (fun p => gives_valueOf _ _ _) fun _ _ ordinary _ => ordinary⟩

theorem Profile.gives_decode (p : Place) :
    Gives Profile.Ordinary (Profile.decode form p) := by
  refine gives_record "struct Profile" ?_ nofun p
  simp only [Profile.fields, List.forall_mem_cons, List.not_mem_nil, false_imp_iff,
    implies_true, and_true]
  exact ⟨keeps_needed (fun p => gives_trivial _) fun _ _ _ => id,
    keeps_optional (fun p => gives_trivial _) fun _ _ _ => id,
    keeps_optional (fun p => gives_trivial _) fun _ _ _ => id,
    keeps_optional (fun p => gives_trivial _) fun _ _ _ => id,
    keeps_optional (fun p => gives_trivial _) fun _ _ _ => id,
    keeps_optional (gives_list ProfileRule.gives_decode) fun _ _ ordinary _ => ordinary⟩

/-- The definition in a rule type from a file is ordinary. -/
theorem RuleType.ordinary_ofYaml {bytes : ByteArray} {r : RuleType}
    (decoded : ofYaml bytes = .ok r) : r.Ordinary :=
  decode_gives gives_decode decoded

/-- The definitions in a profile from a file are ordinary. -/
theorem Profile.ordinary_ofYaml {bytes : ByteArray} {p : Profile}
    (decoded : ofYaml bytes = .ok p) : p.Ordinary :=
  decode_gives gives_decode decoded

end RuleCatalog
