/-!
The tokens of YAML text. The end of the text has no token of its own: it is the end of the list.
-/

namespace Readiness.Yaml

inductive Token
  | version (major minor : Nat)
  /-- A directive that lets a tag handle stand for the start of a tag. -/
  | handle (handle : String) (start : List UInt8)
  | documentStart
  | documentEnd
  | blockSequenceStart
  | blockMappingStart
  | blockEnd
  | flowSequenceStart
  | flowSequenceEnd
  | flowMappingStart
  | flowMappingEnd
  /-- A dash before an item of a block. -/
  | blockEntry
  /-- A comma between items in brackets. -/
  | flowEntry
  | key
  | value
  | reference (name : String)
  | anchor (name : String)
  /-- A tag as a handle and the bytes after it; a tag in angle brackets has an empty handle. -/
  | tag (handle : String) (rest : List UInt8)
  | scalar (text : String) (plain : Bool)
  deriving Repr, DecidableEq

end Readiness.Yaml
