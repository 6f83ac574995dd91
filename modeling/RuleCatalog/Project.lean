import RuleCatalog.Json.Decode
import RuleCatalog.Uuid

/-! # Projects

Whom an operation is for: a project, and the provider that its content is linked to. The provider is
handed on and not looked into.
-/

namespace RuleCatalog

/-- The provider of a project's content. -/
structure Provider where
  id : Uuid
  name : String
  deriving DecidableEq, Repr

/-- A project with its provider. -/
structure Project where
  id : Uuid
  provider : Provider
  deriving DecidableEq, Repr

/-- Reads an identifier. -/
def Uuid.decode (node : Json.Node) : Except Json.Error Uuid :=
  node.parsed "a formatted UUID string" fun s =>
    match Uuid.parse? s with
    | some u => .ok u
    | none => .error "UUID parsing failed"

namespace Provider

def toValue (p : Provider) : Json.Value :=
  .object [("id", .string p.id.text), ("name", .string p.name)]

def decode : Json.Node → Except Json.Error Provider :=
  Json.Node.record "struct Provider" [
    .needed "id" Uuid.decode fun id p => { p with id := id },
    .needed "name" Json.Node.text fun name p => { p with name := name }] ⟨⟨0⟩, ""⟩

end Provider

namespace Project

def toValue (p : Project) : Json.Value :=
  .object [("id", .string p.id.text), ("provider", p.provider.toValue)]

def decode : Json.Node → Except Json.Error Project :=
  Json.Node.record "struct ProjectContext" [
    .needed "id" Uuid.decode fun id p => { p with id := id },
    .needed "provider" Provider.decode fun provider p => { p with provider := provider }]
    ⟨⟨0⟩, ⟨⟨0⟩, ""⟩⟩

end Project

end RuleCatalog
