/-!
# Tokens of YAML
-/

namespace BlobDisk.Yaml

/-- A tag as it is written: a handle and what follows it. -/
structure Tag where
  handle : String
  suffix : String
deriving DecidableEq, Repr

/-- How a scalar is written. -/
inductive ScalarStyle
  | plain
  | quoted
  | literal
  | folded
deriving DecidableEq, Repr

/-- A token. The starts and the end of blocks come from the indentation. -/
inductive Token
  | versionDirective (major minor : Nat)
  | tagDirective (handle start : String)
  | documentStart
  | documentEnd
  | blockSequenceStart
  | blockMappingStart
  | blockEnd
  | flowSequenceStart
  | flowSequenceEnd
  | flowMappingStart
  | flowMappingEnd
  | flowEntry
  | blockEntry
  | key
  | value
  /-- An alias: an anchor once more. -/
  | again (name : String)
  | anchor (name : String)
  | tag (t : Tag)
  | scalar (text : String) (style : ScalarStyle)
deriving DecidableEq, Repr

end BlobDisk.Yaml
