import TraitDoc.Yaml.Node.OfText
import TraitDoc.Yaml.Node.Outline
/-!
# YAML documents

The value that the one document of a text says; a text without any document says
nothing. Loading and the program take their reader as an argument, and what is
proved about them holds for every reader; this is the one that they run with.
-/

namespace TraitDoc.Yaml

/--
The value of the document, or why there is none. The content of at most `depth`
collections around one another is kept.
-/
def read (depth : Nat) (text : Text) : Except Fault Value := do
  match ← Nodes.ofText text with
  | (_, none) => return .null
  | (nodes, some root) => return (← Outlines.ofNodes nodes root).unfold depth root

end TraitDoc.Yaml
