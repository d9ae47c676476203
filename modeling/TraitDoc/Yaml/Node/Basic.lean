import TraitDoc.Yaml.Tag
import TraitDoc.Yaml.Moment
import TraitDoc.Yaml.Number
/-!
# Nodes

A YAML document is a graph of nodes: scalars, sequences and mappings, each with
its type. An alias is the very node that it names, which can be a collection
around it; so a collection holds the numbers of its nodes, and the nodes of a
document stand in one row in which the numbers count.

A plain scalar has the type that its form suggests.

## Main definitions

* `Node`, `Nodes` — the nodes of a document.
* `Nodes.tag`, `Nodes.content` — what is known of one of them.
* `Tag.ofForm` — the type that the form of a scalar suggests.
-/

namespace TraitDoc.Yaml

/-! ## The nodes of a document -/

/-- What a node holds, other nodes by their numbers. -/
inductive Content
  | scalar (text : Text)
  | sequence (items : List Nat)
  | mapping (entries : List (Nat × Nat))
deriving DecidableEq, Repr

/-- A node. -/
structure Node where
  tag : Tag
  content : Content
deriving DecidableEq, Repr

/-- The nodes of a document. -/
abbrev Nodes := Array Node

namespace Nodes

/-- The type of a node. -/
def tag (nodes : Nodes) (n : Nat) : Tag := (nodes[n]?.map Node.tag).getD .unknown

/-- What a node holds. -/
def content (nodes : Nodes) (n : Nat) : Content := (nodes[n]?.map Node.content).getD (.scalar [])

/-- The entries of a node that is a mapping. -/
def entries? (nodes : Nodes) (n : Nat) : Option (List (Nat × Nat)) :=
  match nodes.content n with
  | .mapping entries => some entries
  | _ => none

/-- The items of a node that is a sequence. -/
def items? (nodes : Nodes) (n : Nat) : Option (List Nat) :=
  match nodes.content n with
  | .sequence items => some items
  | _ => none

/-- The nodes with another content for one of them. -/
def fill (nodes : Nodes) (n : Nat) (content : Content) : Nodes :=
  nodes.modify n fun node => { node with content }

/-- The nodes with another type for one of them. -/
def retag (nodes : Nodes) (n : Nat) (tag : Tag) : Nodes := nodes.modify n fun node => { node with tag }

/-- The number of entries of all mappings. -/
def entryCount (nodes : Nodes) : Nat :=
  nodes.foldl (fun count node =>
    match node.content with
    | .mapping entries => count + entries.length
    | _ => count) 0

end Nodes

/-! ## Types by form -/

/-- The words for truth and falsehood, with what they say. -/
def booleanWords : List (Text × Bool) :=
  [("yes".toList, true), ("no".toList, false), ("true".toList, true), ("false".toList, false),
   ("on".toList, true), ("off".toList, false)]

/-- A lower-case word, the word with a capital, and the word in capitals. -/
def spellings (word : Text) : List Text :=
  let capitals := word.map Char.toUpper
  [word, capitals.take 1 ++ word.drop 1, capitals]

/-- Whether a scalar is a word for truth or falsehood. -/
def looksBoolean (s : Text) : Bool := booleanWords.any fun word => (spellings word.1).contains s

/-- Whether a scalar stands for nothing. -/
def looksNull (s : Text) : Bool :=
  s.isEmpty || s == ['~'] || (spellings "null".toList).contains s

/-- The marks of YAML itself that have a type of their own as scalars, though not a known one. -/
def markWords : List Text := [['!'], ['&'], ['*']]

/-- The type of a scalar of that form. -/
def Tag.ofWord (s : Text) : Tag :=
  if looksBoolean s then .boolean
  else if Number.looksFloat s then .float
  else if Number.looksInteger s then .integer
  else if s == ['<', '<'] then .merge
  else if looksNull s then .null
  else if Moment.looksMoment s then .timestamp
  else if s == ['='] then .value
  else if markWords.contains s then .unknown
  else .text

/-- The type that the form of a scalar suggests, where a line feed at its end does not count. -/
def Tag.ofForm (s : Text) : Tag := if s == ['\n'] then .text else .ofWord s.withoutLineFeed

/-- The scalar that stands where nothing is written. -/
def Node.absent : Node := ⟨.null, .scalar []⟩

end TraitDoc.Yaml
