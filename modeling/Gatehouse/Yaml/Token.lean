import Gatehouse.Yaml.ReadError

/-!
# Tokens of a YAML text

The marks and scalars that a text consists of, with the block structure that
indentation expresses made explicit.
-/

namespace Gatehouse.Yaml

/-- How a scalar is written. -/
inductive ScalarStyle where
  | plain
  | quoted
  | block
  deriving DecidableEq, Repr

/-- One token of a YAML text. -/
inductive Token where
  | streamEnd
  /-- The version directive. -/
  | versionDirective (major minor : Nat)
  /-- The directive that gives a tag handle its meaning. -/
  | tagDirective (handle : List Char) (start : List UInt8)
  | documentStart
  | documentEnd
  | blockSequenceStart
  | blockMappingStart
  | blockEnd
  | flowSequenceStart
  | flowSequenceEnd
  | flowMappingStart
  | flowMappingEnd
  | blockEntry
  | flowEntry
  | key
  | value
  | anchor (name : String)
  /-- A reference to an anchored node. -/
  | reference (name : String)
  /-- A tag by its handle, empty for a tag in full, and what follows it. -/
  | tag (handle : List Char) (rest : List UInt8)
  | scalar (text : String) (style : ScalarStyle)
  deriving DecidableEq, Repr

end Gatehouse.Yaml
