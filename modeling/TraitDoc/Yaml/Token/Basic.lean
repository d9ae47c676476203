import TraitDoc.Text.Basic
/-!
# Tokens

The words of a YAML stream. Structure that the stream shows by indentation only
has tokens of its own: a block collection has a start and an end, and a key that
is known as one only by the colon behind it is preceded by a key token.
-/

namespace TraitDoc.Yaml

/-- A word of a YAML stream. -/
inductive Token
  /-- A directive that states the version, by its major number. -/
  | versionDirective (major : Nat)
  /-- A directive that lets a handle stand for the beginning of tags. -/
  | tagDirective (handle stem : Text)
  /-- Any other directive. -/
  | otherDirective
  | documentStart
  | documentEnd
  | blockSequenceStart
  | blockMappingStart
  | blockEnd
  | flowSequenceStart
  | flowSequenceEnd
  | flowMappingStart
  | flowMappingEnd
  | blockEntry
  | flowEntry
  | key
  | value
  | alias (name : Text)
  | anchor (name : Text)
  /-- A tag, whose handle stands for its beginning if it has one. -/
  | tag (handle : Option Text) (suffix : Text)
  /-- A scalar, whose meaning depends on its form if it is plain. -/
  | scalar (plain : Bool) (text : Text)
deriving DecidableEq, Repr

end TraitDoc.Yaml
