/-!
# The words of YAML

A YAML text is a row of tokens. Some of them, such as the beginning of a block or a key, are not
written at all but follow from the indentation and from a later colon.
-/

namespace Docking.Yaml

/-- How a scalar is written. -/
inductive ScalarStyle where
  | plain
  | quoted
  /-- A block whose lines are kept. -/
  | literal
  /-- A block whose lines are folded. -/
  | folded
  deriving DecidableEq, Repr

/-- A word of a YAML text. -/
inductive Token where
  /-- The version of YAML that a document claims to follow. -/
  | version (major minor : Nat)
  /-- A shorthand for the beginning of tags. -/
  | tagShorthand (handle meaning : String)
  | documentStart
  | documentEnd
  | blockSequenceStart
  | blockMappingStart
  | blockEnd
  | flowSequenceStart
  | flowSequenceEnd
  | flowMappingStart
  | flowMappingEnd
  /-- The hyphen before an item of a block. -/
  | blockEntry
  /-- The comma within brackets. -/
  | flowEntry
  /-- The beginning of a key. -/
  | key
  /-- The colon behind a key. -/
  | value
  | aliasOf (name : String)
  | anchor (name : String)
  | tag (handle suffix : String)
  | scalar (text : String) (style : ScalarStyle)
  deriving DecidableEq, Repr

end Docking.Yaml
