/-!
# Tokens of YAML documents

A document is a row of tokens.  Blocks have no brackets in the text; their beginning
and end are tokens that stand where the indentation grows and shrinks.
-/

namespace FormCheck.Yaml

/-- A tag as written: the handle of a set of tags, if there is one, and a name. -/
structure TagText where
  handle? : Option (List Char)
  name : List Char
  deriving DecidableEq, Repr

/-- A token. -/
inductive Token where
  | version (major : List Char)
  | tagSet (handle start : List Char)
  | otherDirective
  | documentStart
  | documentEnd
  | streamEnd
  | blockSequenceStart
  | blockMappingStart
  | blockEnd
  | flowSequenceStart
  | flowSequenceEnd
  | flowMappingStart
  | flowMappingEnd
  | blockEntry
  | flowEntry
  | key
  | value
  | alias (name : List Char)
  | anchor (name : List Char)
  | tag (text : TagText)
  | scalar (text : List Char) (plain : Bool)
  deriving DecidableEq, Repr

end FormCheck.Yaml
