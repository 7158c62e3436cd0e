import ApiTypes.Fault

/-!
# Tokens of indented documents

The tokens make the structure explicit that indentation and separators only
imply: where block collections start and end, and where keys and values do. A
text with an escape or a number that denotes nothing has tokens up to there.
-/

set_option autoImplicit false

namespace ApiTypes.Yaml

inductive Error where
  /-- The text is not a document of the format. -/
  | malformed
  /-- Something that is well formed denotes nothing. -/
  | fault (f : Fault)
  deriving DecidableEq, Repr

/-- The tag of a node as it is written: a handle, if it has one, and a suffix. -/
structure TagName where
  handle : Option String
  suffix : String
  deriving DecidableEq, Repr

inductive Directive where
  | version (major : Nat)
  | tag (handle shorthand : String)
  | other
  deriving DecidableEq, Repr

inductive Token where
  | directive (d : Directive)
  | documentStart
  | documentEnd
  | blockSequenceStart
  | blockMappingStart
  | blockEnd
  | flowSequenceStart
  | flowSequenceEnd
  | flowMappingStart
  | flowMappingEnd
  | blockEntry
  | flowEntry
  | key
  | value
  | reference (name : String)
  | anchor (name : String)
  | tag (name : TagName)
  | scalar (text : String) (plain : Bool)
  /-- Nothing can be read from here on. -/
  | unreadable (f : Fault)
  deriving DecidableEq, Repr

end ApiTypes.Yaml
