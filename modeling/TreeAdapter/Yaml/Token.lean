import TreeAdapter.Yaml.Tag

/-!
# Tokens of YAML

A text as the flat sequence that its nesting is read from. Indentation is already turned into
tokens: a block collection begins and ends with one.
-/

namespace TreeAdapter.Yaml
set_option autoImplicit false

/-- How a scalar is written. -/
inductive ScalarStyle where
  | plain
  /-- As a block whose lines are kept. -/
  | literal
  /-- Between quotes, or as a block whose lines are folded. -/
  | quoted
deriving DecidableEq

inductive Token where
  /-- A directive that gives a version of the language which can be read. -/
  | version
  /-- A directive that gives the prefix of a handle. -/
  | tagHandle (handle : String) (uri : Octets)
  | documentStart
  | documentEnd
  | blockSequenceStart
  | blockMappingStart
  | blockEnd
  | flowSequenceStart
  | flowSequenceEnd
  | flowMappingStart
  | flowMappingEnd
  | blockEntry
  | flowEntry
  | key
  | value
  | anchor (name : String)
  | alias (name : String)
  | tag (tag : WrittenTag)
  | scalar (style : ScalarStyle) (text : String)
deriving DecidableEq

end TreeAdapter.Yaml
