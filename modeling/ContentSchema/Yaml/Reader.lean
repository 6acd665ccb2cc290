import ContentSchema.Yaml.Composition
import ContentSchema.Yaml.Node
import ContentSchema.Yaml.Tokens

/-!
# Reading YAML text

A text without any token is null.  Every other text has to hold exactly one
document.
-/

namespace ContentSchema.Yaml

/-- The document that a text writes. -/
def read (text : String) : Option Document :=
  match tokens text with
  | none => none
  | some [] => some .null
  | some tokens => (Grammar.document tokens).bind Composition.ofNode

end ContentSchema.Yaml
