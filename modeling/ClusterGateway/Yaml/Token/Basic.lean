import ClusterGateway.Yaml.Tag

/-!
# Tokens of YAML

The start of a block collection and the mark before a simple key have no text of their own:
indentation and a later colon show them.
-/

namespace ClusterGateway.Yaml

inductive Token where
  | directive (d : Directive)
  | documentStart
  | documentEnd
  | blockSequenceStart
  | blockMappingStart
  | blockEnd
  | flowSequenceStart
  | flowSequenceEnd
  | flowMappingStart
  | flowMappingEnd
  | blockEntry
  | flowEntry
  | key
  | value
  | alias (name : String)
  | anchor (name : String)
  | tag (t : Tag)
  | scalar (text : String) (plain : Bool)
  deriving DecidableEq, Repr

end ClusterGateway.Yaml
