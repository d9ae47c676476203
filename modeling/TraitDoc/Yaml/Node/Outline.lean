import TraitDoc.Yaml.Node.Merging
import TraitDoc.Yaml.Node.Scalar
/-!
# What nodes say

Each node says a value, whose own parts are values of other nodes. An *outline*
is a value in which these nodes stand as numbers, so it is finite also where a
collection contains itself.

The nodes are read from the root downwards, level by level: a scalar when it is
met, a collection after all that has been met before it. The first fault that is
met counts. A node that is met again is not read again, so a key that has been
read as one type stays one, even if merging has given it another type since.

Keys must not be collections. A set keeps its keys only. The items of an ordered
mapping and of a list of pairs are mappings that have just one entry when their
turn comes.

## Main definitions

* `Outline` — values with numbers for the nodes in them.
* `Outlines.ofNodes` — what the nodes of a document say.
* `Outlines.unfold` — the value itself, down to some depth.
-/

namespace TraitDoc.Yaml

/-- What a node says, other nodes by their numbers. -/
inductive Outline
  | scalar (value : Value)
  | list (items : List Nat)
  | pairs (entries : List (Nat × Nat))
  | set (members : List Nat)
  | mapping (entries : List (Nat × Nat))

namespace Outline

/-- The collection of a type without its content, if the type is one of collections. -/
def ofTag? : Tag → Option Outline
  | .sequence => some (.list [])
  | .orderedMapping => some (.pairs [])
  | .pairs => some (.pairs [])
  | .set => some (.set [])
  | .mapping => some (.mapping [])
  | _ => none

/-- Whether the value can be a key. -/
def isKey : Outline → Bool
  | .scalar _ => true
  | _ => false

end Outline

/-- What the nodes of a document say, as far as it is known. -/
abbrev Outlines := Array (Option Outline)

namespace Outlines

/-- The state of the reading. -/
structure State where
  nodes : Nodes
  outlines : Outlines
  /-- The collections in the order in which they were met. -/
  collections : Array Nat

/-- A reading of nodes. -/
abbrev Reading := StateT State (Except Fault)

/-- Records what a node says. -/
def record (n : Nat) (outline : Outline) : Reading Unit :=
  modify fun s => { s with outlines := s.outlines.setIfInBounds n (some outline) }

/-- What a node says, where the content of a collection is left to be read later. -/
def meet (n : Nat) : Reading Outline := do
  match ((← get).outlines[n]?).join with
  | some outline => return outline
  | none =>
    match Outline.ofTag? ((← get).nodes.tag n) with
    | some outline =>
      record n outline
      modify fun s => { s with collections := s.collections.push n }
      return outline
    | none =>
      let outline := Outline.scalar (← (← get).nodes.scalar n)
      record n outline
      return outline

/-- Meets key and value of an entry whose key must be fit for one. -/
def meetEntry (entry : Nat × Nat) : Reading Unit := do
  if !(← meet entry.1).isKey then throw .malformed
  discard (meet entry.2)

/-- The entries of a mapping, after merging. -/
def entriesOf (limit n : Nat) : Reading (List (Nat × Nat)) := fun ⟨nodes, outlines, collections⟩ => do
  let nodes ← nodes.merge limit n
  return ((nodes.entries? n).getD [], ⟨nodes, outlines, collections⟩)

/-- The items of a sequence. -/
def itemsOf (n : Nat) : Reading (List Nat) := do
  match (← get).nodes.items? n with
  | some items => return items
  | none => throw .malformed

/-- Meets key and value of the only entry of a mapping. -/
def meetSingle (n : Nat) : Reading (Nat × Nat) := do
  match (← get).nodes.entries? n with
  | some [entry] =>
    discard (meet entry.1)
    discard (meet entry.2)
    return entry
  | _ => throw .malformed

/-- Reads the content of a collection. -/
def readContent (limit n : Nat) : Reading Unit := do
  match Outline.ofTag? ((← get).nodes.tag n) with
  | some (.mapping _) =>
    let entries ← entriesOf limit n
    entries.forM meetEntry
    record n (.mapping entries)
  | some (.set _) =>
    let entries ← entriesOf limit n
    entries.forM meetEntry
    record n (.set (entries.map Prod.fst))
  | some (.list _) =>
    let items ← itemsOf n
    items.forM fun item => discard (meet item)
    record n (.list items)
  | some (.pairs _) => record n (.pairs (← (← itemsOf n).mapM meetSingle))
  | _ => throw .malformed

/-- Reads the content of the collections from number `next` on, those met on the way included. -/
def readContents (limit : Nat) : (fuel next : Nat) → Reading Unit
  | 0, _ => pure ()
  | fuel + 1, next => do
    match (← get).collections[next]? with
    | none => pure ()
    | some n =>
      readContent limit n
      readContents limit fuel (next + 1)

/-- What the nodes of a document with that root say; no node is met twice as a new one. -/
def ofNodes (nodes : Nodes) (root : Nat) : Except Fault Outlines := do
  let read : Reading Unit := do
    discard (meet root)
    readContents nodes.entryCount nodes.size 0
  let (_, state) ← read.run ⟨nodes, Array.replicate nodes.size none, #[]⟩
  return state.outlines

/-- The value of a node, in which the content of at most `depth` collections around one another is kept. -/
def unfold (outlines : Outlines) : (depth : Nat) → Nat → Value
  | 0, n =>
    match (outlines[n]?).join with
    | some (.scalar value) => value
    | _ => .closed
  | depth + 1, n =>
    match (outlines[n]?).join with
    | none => .closed
    | some (.scalar value) => value
    | some (.list items) => .list (items.map (unfold outlines depth))
    | some (.pairs entries) =>
      .list (entries.map fun e => .pair (unfold outlines depth e.1) (unfold outlines depth e.2))
    | some (.set members) => .set (members.map (unfold outlines depth))
    | some (.mapping entries) =>
      .ofEntries (entries.map fun e => (unfold outlines depth e.1, unfold outlines depth e.2))

end Outlines

end TraitDoc.Yaml
