import TraitDoc.Yaml.Node.Basic
import TraitDoc.Yaml.Token.Scan
/-!
# From tokens to nodes

The grammar of YAML over tokens, read from left to right with one token ahead.
A node is an alias, or it has properties, an anchor and a tag in either order,
and content. Where properties stand alone, the content is an empty scalar, and
so it is where a collection has a mark for an entry and no entry.

An anchor names its node from the moment the node begins, so a collection can
hold aliases of itself. No two nodes of a document share an anchor.

A fault counts where it is met first, be it one of the grammar or of the tokens,
so each question is asked of the token ahead as soon as it can be and no sooner.

Each call of the recursion is given one unit of fuel less, and a call that is not
the last one passes a token before the next call but one; so a few units for
each character suffice.

## Main definitions

* `Grammar` — reading of tokens, with the nodes and anchors met so far.
* `Grammar.node` and the functions around it — the grammar.
* `Nodes.ofText` — the nodes of the one document of a text.
-/

namespace TraitDoc.Yaml

/-- The tokens ahead, and the nodes and anchors met so far. -/
structure Grammar.State where
  scan : Scan
  /-- As many rounds as the scan of the whole stream can take. -/
  rounds : Nat
  nodes : Nodes
  anchors : List (Text × Nat)

/-- A reading of tokens that can fail. -/
abbrev Grammar := StateT Grammar.State (Except Fault)

namespace Grammar

/-! ## One token at a time -/

/-- The token ahead. -/
def peek : Grammar (Option Token) := fun ⟨scan, rounds, nodes, anchors⟩ => do
  let scan ← scan.certain rounds
  return (scan.next?, ⟨scan, rounds, nodes, anchors⟩)

/-- Passes the token ahead. -/
def advance : Grammar Unit := modify fun s => { s with scan := s.scan.pass }

/-- Whether one of these tokens, or the end, is ahead. -/
def isAhead (among : List Token) : Grammar Bool := do return (← peek).all among.contains

/-- Passes the given token if it is ahead. -/
def accept (token : Token) : Grammar Bool := do
  if (← peek) == some token then
    advance
    return true
  else return false

/-- Passes the given token, which must be ahead. -/
def expect (token : Token) : Grammar Unit := do
  if !(← accept token) then throw .malformed

/-! ## Nodes and their names -/

/-- A new node, which the anchor names; the anchor must not have named another one. -/
def add (anchor : Option Text) (node : Node) : Grammar Nat := fun s =>
  match anchor with
  | none => .ok (s.nodes.size, { s with nodes := s.nodes.push node })
  | some name =>
    if (s.anchors.lookup name).isSome then .error .malformed
    else
      let n := s.nodes.size
      .ok (n, { s with nodes := s.nodes.push node, anchors := (name, n) :: s.anchors })

/-- A new collection, which its content may name already. -/
def collect (anchor : Option Text) (tag : Tag) (content : Grammar Content) : Grammar Nat := do
  let n ← add anchor ⟨tag, .sequence []⟩
  let content ← content
  modify fun s => { s with nodes := s.nodes.fill n content }
  return n

/-- The node that an alias stands for. -/
def resolve (name : Text) : Grammar Nat := do
  match (← get).anchors.lookup name with
  | none => throw .malformed
  | some n => return n

/-! ## Properties -/

/-- The beginnings of tags, by the handles that stand for them. -/
abbrev Handles := List (Text × Text)

/-- The handles that need no directive. -/
def commonHandles : Handles := [(['!'], ['!']), (['!', '!'], Tag.stem)]

/-- The tag that handle and suffix make up. -/
def wholeTag (handles : Handles) : Option Text × Text → Grammar Text
  | (none, suffix) => return suffix
  | (some handle, suffix) =>
    match handles.lookup handle with
    | none => throw .malformed
    | some stem => return stem ++ suffix

/-- The tag ahead, if there is one, as it is written. -/
def tag? : Grammar (Option (Option Text × Text)) := do
  match ← peek with
  | some (.tag handle suffix) =>
    advance
    return some (handle, suffix)
  | _ => return none

/-- The anchor ahead, if there is one. -/
def anchor? : Grammar (Option Text) := do
  match ← peek with
  | some (.anchor name) =>
    advance
    return some name
  | _ => return none

/-- The anchor and the tag ahead, in either order; whether the handle is defined is asked last. -/
def properties (handles : Handles) : Grammar (Option Text × Option Text) := do
  let first ← anchor?
  let tag ← tag?
  let anchor ← if first.isNone && tag.isSome then anchor? else pure first
  return (anchor, ← tag.mapM (wholeTag handles))

/-- The type that a tag names, where no tag, or the tag that names none, leaves the type to the content. -/
def typeOf (tag : Option Text) (byContent : Tag) : Tag :=
  match tag with
  | none => byContent
  | some tag => if tag == ['!'] then byContent else .ofText tag

/-- The type of a scalar: its form says it where the scalar is plain or has the tag that names none. -/
def scalarType (tag : Option Text) (plain : Bool) (text : Text) : Tag :=
  typeOf tag (if plain || tag.isSome then .ofForm text else .text)

/-! ## The grammar -/

mutual

/-- A node; `block` allows block collections and `flush` a sequence that is not indented further. -/
def node (handles : Handles) (block flush : Bool) : (fuel : Nat) → Grammar Nat
  | 0 => throw .malformed
  | fuel + 1 => do
    if let some (.alias name) ← peek then
      advance
      return ← resolve name
    let (anchor, tag) ← properties handles
    let sequence (items : Grammar (List Nat)) : Grammar Nat :=
      collect anchor (typeOf tag .sequence) (Content.sequence <$> items)
    let mapping (entries : Grammar (List (Nat × Nat))) : Grammar Nat :=
      collect anchor (typeOf tag .mapping) (Content.mapping <$> entries)
    let empty : Grammar Nat :=
      if anchor.isSome || tag.isSome then add anchor ⟨scalarType tag true [], .scalar []⟩
      else throw .malformed
    match ← peek with
    | some (.scalar plain text) =>
      let n ← add anchor ⟨scalarType tag plain text, .scalar text⟩
      advance
      return n
    | some .flowSequenceStart => sequence (advance *> flowSequence handles true fuel)
    | some .flowMappingStart => mapping (advance *> flowMapping handles true fuel)
    | some .blockSequenceStart =>
      if block then sequence (advance *> blockSequence handles fuel) else empty
    | some .blockMappingStart =>
      if block then mapping (advance *> blockMapping handles fuel) else empty
    | some .blockEntry => if flush then sequence (flushSequence handles fuel) else empty
    | _ => empty
termination_by structural fuel => fuel

/-- A node, or the absent one where one of these tokens is ahead. -/
def nodeUnless (handles : Handles) (among : List Token) (block flush : Bool) :
    (fuel : Nat) → Grammar Nat
  | 0 => throw .malformed
  | fuel + 1 => do
    if (← peek).any among.contains then add none .absent else node handles block flush fuel
termination_by structural fuel => fuel

/-- The items of a block sequence up to its end. -/
def blockSequence (handles : Handles) : (fuel : Nat) → Grammar (List Nat)
  | 0 => throw .malformed
  | fuel + 1 => do
    if ← accept .blockEntry then
      let item ← nodeUnless handles [.blockEntry, .blockEnd] true false fuel
      return item :: (← blockSequence handles fuel)
    expect .blockEnd
    return []
termination_by structural fuel => fuel

/-- The items of a sequence that is indented like the mapping around it. -/
def flushSequence (handles : Handles) : (fuel : Nat) → Grammar (List Nat)
  | 0 => throw .malformed
  | fuel + 1 => do
    if ← accept .blockEntry then
      let item ← nodeUnless handles [.blockEntry, .key, .value, .blockEnd] true false fuel
      return item :: (← flushSequence handles fuel)
    return []
termination_by structural fuel => fuel

/-- The entries of a block mapping up to its end. -/
def blockMapping (handles : Handles) : (fuel : Nat) → Grammar (List (Nat × Nat))
  | 0 => throw .malformed
  | fuel + 1 => do
    if ← accept .key then
      let key ← nodeUnless handles [.key, .value, .blockEnd] true true fuel
      let value ←
        if ← accept .value then nodeUnless handles [.key, .value, .blockEnd] true true fuel
        else add none .absent
      return (key, value) :: (← blockMapping handles fuel)
    expect .blockEnd
    return []
termination_by structural fuel => fuel

/-- The value of an entry of a flow collection with that end, where a value mark may be ahead. -/
def flowValue (handles : Handles) (close : Token) : (fuel : Nat) → Grammar Nat
  | 0 => throw .malformed
  | fuel + 1 => do
    if ← accept .value then nodeUnless handles [.flowEntry, close] false false fuel
    else add none .absent
termination_by structural fuel => fuel

/-- The items of a flow sequence up to its end, each but the first behind a comma. -/
def flowSequence (handles : Handles) (first : Bool) : (fuel : Nat) → Grammar (List Nat)
  | 0 => throw .malformed
  | fuel + 1 => do
    if ← accept .flowSequenceEnd then return []
    if !first then expect .flowEntry
    if ← accept .key then
      let entry : Grammar (List (Nat × Nat)) := do
        let key ← nodeUnless handles [.value, .flowEntry, .flowSequenceEnd] false false fuel
        let value ← flowValue handles .flowSequenceEnd fuel
        return [(key, value)]
      let item ← collect none .mapping (Content.mapping <$> entry)
      return item :: (← flowSequence handles false fuel)
    if ← accept .flowSequenceEnd then return []
    let item ← node handles false false fuel
    return item :: (← flowSequence handles false fuel)
termination_by structural fuel => fuel

/-- The entries of a flow mapping up to its end, each but the first behind a comma. -/
def flowMapping (handles : Handles) (first : Bool) : (fuel : Nat) → Grammar (List (Nat × Nat))
  | 0 => throw .malformed
  | fuel + 1 => do
    if ← accept .flowMappingEnd then return []
    if !first then expect .flowEntry
    if ← accept .key then
      let key ← nodeUnless handles [.value, .flowEntry, .flowMappingEnd] false false fuel
      let value ← flowValue handles .flowMappingEnd fuel
      return (key, value) :: (← flowMapping handles false fuel)
    if ← accept .flowMappingEnd then return []
    let key ← node handles false false fuel
    let value ← add none .absent
    return (key, value) :: (← flowMapping handles false fuel)
termination_by structural fuel => fuel

end

/-! ## Documents -/

/-- The handles that the directives ahead define, each of them once. -/
def directives (version : Bool) (handles : Handles) : (fuel : Nat) → Grammar Handles
  | 0 => return handles
  | fuel + 1 => do
    match ← peek with
    | some (.versionDirective major) =>
      if version || major != 1 then throw .malformed
      advance
      directives true handles fuel
    | some (.tagDirective handle stem) =>
      if (handles.lookup handle).isSome then throw .malformed
      advance
      directives version ((handle, stem) :: handles) fuel
    | some .otherDirective =>
      advance
      directives version handles fuel
    | _ => return handles

/-- Whether a directive is ahead. -/
def isDirectiveAhead : Grammar Bool := do
  match ← peek with
  | some (.versionDirective _) => return true
  | some (.tagDirective _ _) => return true
  | some .otherDirective => return true
  | _ => return false

/-- Passes the marks of the document's end. -/
def documentEnds : (fuel : Nat) → Grammar Unit
  | 0 => pure ()
  | fuel + 1 => do if ← accept .documentEnd then documentEnds fuel

/-- The root of the document, if there is one, behind which there must not be another. -/
def document (fuel : Nat) : Grammar (Option Nat) := do
  if (← peek).isNone then return none
  let marked := (← isDirectiveAhead) || (← peek) == some .documentStart
  let root ←
    if marked then do
      let handles ← directives false [] fuel
      expect .documentStart
      if (← isDirectiveAhead) || (← isAhead [.documentStart, .documentEnd]) then add none .absent
      else node (handles ++ commonHandles) true false fuel
    else node commonHandles true false fuel
  documentEnds fuel
  if (← peek).isSome then
    discard (directives false [] fuel)
    throw .malformed
  return some root

end Grammar

/-- The nodes of the one document of a text, and its root if there is a document at all. -/
def Nodes.ofText (text : Text) : Except Fault (Nodes × Option Nat) := do
  if !text.all isAllowed then throw .malformed
  let size := text.length + 2
  let (root, state) ← (Grammar.document (16 * size)).run ⟨.start text, size, #[], []⟩
  return (state.nodes, root)

end TraitDoc.Yaml
