import ContentSchema.Yaml.Uri

/-!
# Tokens of YAML text

Tokens are brackets, indicators, properties of nodes, scalars and the marks
between documents.  Indentation shows as tokens too: a block collection has a
start and an end like one in brackets.
-/

namespace ContentSchema.Yaml

/-- The smallest parts of a YAML text that mean something. -/
inductive Token where
  | version (major minor : Nat)
  | tagHandle (handle : String) (expansion : Uri)
  | documentStart
  | documentEnd
  | blockSequenceStart
  | blockMappingStart
  | blockEnd
  | flowSequenceStart
  | flowSequenceEnd
  | flowMappingStart
  | flowMappingEnd
  | blockEntry
  | flowEntry
  | key
  | value
  | alias (name : String)
  | anchor (name : String)
  | tag (handle : String) (suffix : Uri)
  | scalar (text : String) (isPlain : Bool)
  deriving DecidableEq, Repr

end ContentSchema.Yaml
