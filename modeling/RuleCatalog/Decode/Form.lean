import RuleCatalog.Decode.Mismatch
import RuleCatalog.Json.Value

/-! # Forms of a document

The content of a bundle may be written in more than one notation. A `Form` gives the few ways in
which a decoder looks at a document, whatever its notation: as text, as a free-form value, as
something optional, as a list, as one name of a fixed choice, as a record. The decoder of a content
type is written once over a form.

A record reads its members in the order of the document. `Field.read` turns a member into a change
of the record built so far, which starts out with the values of absent members; `Progress` keeps
which members have been seen.
-/

namespace RuleCatalog

/-- One member of a record `σ` in documents with nodes of type `ν`. -/
structure Field (ν : Type) (m : Type → Type) (σ : Type) where
  name : String
  /-- Whether a record without this member is refused. -/
  required : Bool
  read : ν → m (σ → σ)

/-- A required member. -/
def Field.needed {ν α σ : Type} {m : Type → Type} [Monad m] (name : String) (read : ν → m α)
    (put : α → σ → σ) : Field ν m σ :=
  ⟨name, true, fun node => do return put (← read node)⟩

/-- A member that may be left out. -/
def Field.optional {ν α σ : Type} {m : Type → Type} [Monad m] (name : String) (read : ν → m α)
    (put : α → σ → σ) : Field ν m σ :=
  ⟨name, false, fun node => do return put (← read node)⟩

/-- A record under construction: the names seen so far and the record built from them. -/
structure Progress (σ : Type) where
  seen : List String
  value : σ

/-- The first required member that has not been seen. -/
def firstMissing? {ν σ : Type} {m : Type → Type} (fields : List (Field ν m σ))
    (seen : List String) : Option String :=
  (fields.find? fun field => field.required && !seen.contains field.name).map Field.name

/-- The ways of looking at a document with nodes of type `ν`. -/
structure Form (ν : Type) (m : Type → Type) where
  text : ν → m String
  value : ν → m Json.Value
  optional : {α : Type} → (ν → m α) → ν → m (Option α)
  list : {α : Type} → (ν → m α) → ν → m (List α)
  /-- One of the given names. -/
  choice : List String → ν → m String
  /-- The record with the given title, from its members and what it is without any. -/
  record : {σ : Type} → String → List (Field ν m σ) → σ → ν → m σ

end RuleCatalog
