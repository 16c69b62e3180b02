import FormFill.Yaml.Fault

/-!
# Tokens

A document is a list of tokens. The starts and the ends of block collections are tokens too, though
nothing but the indentation shows them. A fault of the text is the last token of its list, so that it
counts only if the reading of the tokens comes to it.
-/

namespace FormFill.Yaml

/-- The tag of a node as it is written: a handle, if it has one, and the rest. -/
structure WrittenTag where
  handle : Option Text
  suffix : Text
  deriving DecidableEq, Repr

/-- A directive in front of a document. -/
inductive Directive where
  /-- The version of the format, of which only the major number matters. -/
  | version (major : Nat)
  /-- A handle and the beginning of the tags it stands for. -/
  | handle (handle beginning : Text)
  | other
  deriving DecidableEq, Repr

/-- A token. -/
inductive Token where
  | directive (directive : Directive)
  | documentStart
  | documentEnd
  | streamEnd
  | blockSequenceStart
  | blockMappingStart
  | blockEnd
  | flowSequenceStart
  | flowSequenceEnd
  | flowMappingStart
  | flowMappingEnd
  | blockEntry
  | flowEntry
  | key
  | value
  | alias (name : Text)
  | anchor (name : Text)
  | tag (tag : WrittenTag)
  /-- A scalar; a plain one is written without quotes and without an indicator. -/
  | scalar (text : Text) (plain : Bool)
  | fault (fault : Fault)
  deriving DecidableEq, Repr

end FormFill.Yaml
