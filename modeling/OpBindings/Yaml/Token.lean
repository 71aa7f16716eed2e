/-
OpBindings.Yaml.Token — the words of a document.
-/

namespace OpBindings.Yaml

/-- A tag as written: a handle and a suffix. A tag in pointed brackets has
no handle. The suffix is kept in octets, since it can be escaped. -/
structure TagWord where
  handle : String
  suffix : List UInt8
deriving DecidableEq, Repr

/-- A word or mark of a document, or the edge of an indented block. -/
inductive Token where
  | versionDirective (major minor : Nat)
  | tagDirective (handle : String) (meant : List UInt8)
  | documentStart
  | documentEnd
  | blockSequenceStart
  | blockMappingStart
  | blockEnd
  | flowSequenceStart
  | flowSequenceEnd
  | flowMappingStart
  | flowMappingEnd
  | blockEntry
  | flowEntry
  | key
  | value
  | reference (name : String)
  | anchor (name : String)
  | tag (word : TagWord)
  /-- A scalar, and whether it was written without quotes or an indicator. -/
  | scalar (text : String) (plain : Bool)
deriving DecidableEq, Repr

end OpBindings.Yaml
