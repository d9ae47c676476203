import TraitDoc.Text.Basic
/-!
# Types of YAML nodes

Every node has a tag, which names its type. The types of the language have tags
with a common beginning; any other tag is of no known type.

## Main definitions

* `Tag` — the types of the language.
* `Tag.ofText` — the type that a written tag names.
-/

namespace TraitDoc.Yaml

/-- The type of a node. -/
inductive Tag
  | null
  | boolean
  | integer
  | float
  | binary
  | timestamp
  | orderedMapping
  | pairs
  | set
  | text
  | sequence
  | mapping
  /-- The type of a key whose value is merged into its mapping. -/
  | merge
  /-- The type of a key whose value stands for its mapping. -/
  | value
  | unknown
deriving DecidableEq, Repr

namespace Tag

/-- What the tags of the language begin with. -/
def stem : Text := "tag:yaml.org,2002:".toList

/-- The names of the types. -/
def names : List (Text × Tag) :=
  [("null".toList, .null), ("bool".toList, .boolean), ("int".toList, .integer),
   ("float".toList, .float), ("binary".toList, .binary), ("timestamp".toList, .timestamp),
   ("omap".toList, .orderedMapping), ("pairs".toList, .pairs), ("set".toList, .set),
   ("str".toList, .text), ("seq".toList, .sequence), ("map".toList, .mapping),
   ("merge".toList, .merge), ("value".toList, .value)]

/-- The type that a tag names. -/
def ofText (tag : Text) : Tag :=
  if stem.isPrefixOf tag then (names.lookup (tag.drop stem.length)).getD .unknown else .unknown

end Tag

end TraitDoc.Yaml
