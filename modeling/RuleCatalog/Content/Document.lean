import RuleCatalog.Content.Profile
import RuleCatalog.Content.RuleType
import RuleCatalog.Json.Decode
import RuleCatalog.Json.Printer
import RuleCatalog.Yaml.Decode

/-! # Documents of a bundle

The notations in which rule types and profiles come: YAML in the files of a bundle, JSON without
blanks in a store.
-/

namespace RuleCatalog

namespace RuleType

/-- Reads the bytes of a file. -/
def ofYaml (bytes : ByteArray) : Except Yaml.Error RuleType :=
  (Yaml.Document.ofBytes bytes).decode (decode Yaml.form)

/-- Reads a stored text. -/
def ofJson (text : String) : Except Json.Error RuleType :=
  (Json.Document.ofString text).decode (decode Json.form)

/-- The text under which a rule type is stored. -/
def toJson (r : RuleType) : String := r.toValue.compact

end RuleType

namespace Profile

/-- Reads the bytes of a file. -/
def ofYaml (bytes : ByteArray) : Except Yaml.Error Profile :=
  (Yaml.Document.ofBytes bytes).decode (decode Yaml.form)

/-- Reads a stored text. -/
def ofJson (text : String) : Except Json.Error Profile :=
  (Json.Document.ofString text).decode (decode Json.form)

/-- The text under which a profile is stored. -/
def toJson (p : Profile) : String := p.toValue.compact

end Profile

end RuleCatalog
