import TraitDoc.Yaml.Fault
import TraitDoc.Yaml.Node.Basic
/-!
# Merging of mappings

A mapping takes in the entries of other mappings by keys of the merging type. The
value of such a key is a mapping, or a sequence of mappings; their entries come
before the entries that the mapping has of its own, so that its own ones count
in the end, and of the mappings in a sequence the first comes last.

A mapping that is merged into another one first takes in what is merged into
itself. A mapping can be merged into itself, through an alias: so each merging key
is taken out before its value is looked at, and what a mapping takes in from
itself is what it has at that moment.

Merging is also what makes a key of the value type a plain text.

## Main definitions

* `Nodes.merge` — the nodes after a mapping has taken in what is merged into it.
-/

namespace TraitDoc.Yaml.Nodes

/-- The nodes in which keys of the value type are texts. -/
def withPlainKeys (nodes : Nodes) (entries : List (Nat × Nat)) : Nodes :=
  entries.foldl (fun nodes entry =>
    if nodes.tag entry.1 = .value then nodes.retag entry.1 .text else nodes) nodes

/--
The nodes after the mapping `n` has taken in what is merged into it, where it has
taken in `taken` already. Before each call one merging key has been taken out, so
no more calls follow one another than there are such keys.
-/
def mergeAfter : (fuel : Nat) → (n : Nat) → (taken : List (Nat × Nat)) → Nodes → Except Fault Nodes
  | 0, _, _, _ => .error .malformed
  | fuel + 1, n, taken, nodes =>
    match nodes.entries? n with
    | none => .error .malformed
    | some entries =>
      match entries.span fun entry => nodes.tag entry.1 != .merge with
      | (own, []) => .ok ((nodes.fill n (.mapping (taken ++ own))).withPlainKeys own)
      | (own, (_, source) :: rest) => do
        let nodes := nodes.fill n (.mapping (own ++ rest))
        let sources ←
          match nodes.content source with
          | .mapping _ => pure [source]
          | .sequence items => pure items
          | .scalar _ => throw .malformed
        let (nodes, more) ←
          sources.foldlM (fun (nodes, more) item => do
            let nodes ← mergeAfter fuel item [] nodes
            return (nodes, (nodes.entries? item).getD [] ++ more)) (nodes, [])
        mergeAfter fuel n (taken ++ more) nodes

/-- The nodes after the mapping `n` has taken in what is merged into it. -/
def merge (nodes : Nodes) (limit n : Nat) : Except Fault Nodes := mergeAfter (limit + 1) n [] nodes

end TraitDoc.Yaml.Nodes
