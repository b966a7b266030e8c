/-
Tokens of YAML documents.
-/

namespace Meetings.Yaml

/-- A line in front of a document that says how to read it. -/
inductive Directive where
  | version (major : Nat)
  /-- Tags that begin with the handle stand for tags that begin with the text. -/
  | handle (handle text : String)
  | other
deriving DecidableEq, Repr

/-- Tokens.  The starts and ends of block collections come from the indentation,
and `key` is put in front of a node when the `value` behind it is found. -/
inductive Token where
  | directive (d : Directive)
  | documentStart
  | documentEnd
  | streamEnd
  | blockSequenceStart
  | blockMappingStart
  | blockEnd
  | flowSequenceStart
  | flowSequenceEnd
  | flowMappingStart
  | flowMappingEnd
  | blockEntry
  | flowEntry
  | key
  | value
  | alias (name : String)
  | anchor (name : String)
  | tag (handle : Option String) (suffix : String)
  | scalar (text : String) (plain : Bool)
deriving DecidableEq, Repr

end Meetings.Yaml
