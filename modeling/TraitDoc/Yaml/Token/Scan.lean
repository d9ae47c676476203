import TraitDoc.Yaml.Token.Scalar
import TraitDoc.Yaml.Token.Tag
/-!
# From characters to tokens

The scan of a YAML stream keeps what the characters passed so far mean for those
ahead: the columns at which the open block collections are indented, how many
flow collections are open, and whether a key may begin here.

A key need not be marked as one. Any token that can begin a key is remembered,
one for each depth of flow collections, and when a colon follows in time, on the
same line and no more than 1024 characters later, the key token is put before
it. In a block, a token at the column of the open mapping *must* turn out to be
a key.

The tokens are asked for one at a time, and no more of the stream is read than
the next token calls for: a fault further on does not matter to a reader who
stops before. A token that may turn out to be a key is certain only when that is
decided, since a key token would come first.

## Main definitions

* `KeyCandidate`, `Scan` — the state.
* `Scan.take` — one more token.
* `Scan.certain`, `Scan.next?`, `Scan.pass` — the tokens one at a time.
-/

namespace TraitDoc.Yaml

/-- A token that will have been a key if a colon follows. -/
structure KeyCandidate where
  /-- The depth of flow collections at which it stands. -/
  depth : Nat
  /-- The number of tokens before it. -/
  position : Nat
  /-- Whether anything but a key is a fault here. -/
  required : Bool
  /-- Where it begins. -/
  place : Cursor
deriving Repr

/-- What the characters passed mean for those ahead. -/
structure Scan where
  cursor : Cursor
  /-- The tokens up to the cursor. -/
  tokens : Array Token
  /-- The number of tokens that have been passed on. -/
  passed : Nat
  /-- Whether there are no tokens beyond these. -/
  isWhole : Bool
  /-- The number of open flow collections. -/
  depth : Nat
  /-- The column of the innermost open block collection, `-1` where none is open. -/
  indent : Int
  /-- The columns of the block collections around it. -/
  outer : List Int
  /-- Whether a key may begin here without a mark. -/
  keyAllowed : Bool
  /-- The tokens that may yet turn out to be keys, one for each depth. -/
  candidates : List KeyCandidate

namespace Scan

/-- The state at the start of a stream. -/
def start (stream : Text) : Scan :=
  { cursor := .start stream, tokens := #[], passed := 0, isWhole := false, depth := 0, indent := -1
    outer := [], keyAllowed := true, candidates := [] }

/-- The longest distance between the beginning of a key and its colon. -/
def keyLimit : Nat := 1024

/-- The state with one more token. -/
def push (s : Scan) (token : Token) : Scan := { s with tokens := s.tokens.push token }

/-- The column ahead. -/
def column (s : Scan) : Int := s.cursor.column

/-! ## Indentation -/

/-- The columns and the number of block collections closed when the indentation falls to `column`. -/
def closed (column indent : Int) : List Int → Int × List Int × Nat
  | [] => (indent, [], 0)
  | next :: outer =>
    if column < indent then
      let (indent, outer, count) := closed column next outer
      (indent, outer, count + 1)
    else (indent, next :: outer, 0)

/-- The state with the block collections closed that are indented by more than `column`. -/
def closeBlocks (s : Scan) (column : Int) : Scan :=
  if s.depth != 0 then s
  else
    let (indent, outer, count) := closed column s.indent s.outer
    { s with
      indent := indent
      outer := outer
      tokens := s.tokens ++ Array.replicate count .blockEnd }

/-- The state with a block collection opened at `column`, if none is open there, its token going to `position`. -/
def openBlock (s : Scan) (column : Int) (position : Nat) (token : Token) : Scan :=
  if s.indent < column then
    { s with
      indent := column
      outer := s.indent :: s.outer
      tokens := s.tokens.insertIdxIfInBounds position token }
  else s

/-! ## Candidates for keys -/

/-- The state without the candidates for which it is too late. -/
def dropExpired (s : Scan) : Except Fault Scan := do
  let expired := fun (key : KeyCandidate) =>
    key.place.line != s.cursor.line || keyLimit < s.cursor.index - key.place.index
  if s.candidates.any fun key => expired key && key.required then throw .malformed
  return { s with candidates := s.candidates.filter (!expired ·) }

/-- The state without a candidate at this depth. -/
def dropCandidate (s : Scan) : Except Fault Scan := do
  if s.candidates.any fun key => key.depth == s.depth && key.required then throw .malformed
  return { s with candidates := s.candidates.filter (·.depth != s.depth) }

/-- The state with the token ahead as a candidate. -/
def offerKey (s : Scan) : Except Fault Scan := do
  if !s.keyAllowed then return s
  let s ← s.dropCandidate
  let key : KeyCandidate :=
    { depth := s.depth
      position := s.tokens.size
      required := s.depth == 0 && s.indent == s.column
      place := s.cursor }
  return { s with candidates := key :: s.candidates }

/-! ## Tokens of one kind each -/

/-- The end of the stream. -/
def finish (s : Scan) : Except Fault Scan := do
  let s ← (s.closeBlocks (-1)).dropCandidate
  return { s with candidates := [], isWhole := true }

/-- A directive or a document marker, which ends all block collections. -/
def takeMarginal (s : Scan) (read : Cursor → Except Fault (Token × Cursor)) :
    Except Fault Scan := do
  let s ← (s.closeBlocks (-1)).dropCandidate
  let (token, k) ← read s.cursor
  return { s with cursor := k, keyAllowed := false }.push token

/-- The start of a flow collection. -/
def takeFlowStart (s : Scan) (token : Token) : Except Fault Scan := do
  let s ← s.offerKey
  return { s with depth := s.depth + 1, keyAllowed := true, cursor := s.cursor.next }.push token

/-- The end of a flow collection. -/
def takeFlowEnd (s : Scan) (token : Token) : Except Fault Scan := do
  let s ← s.dropCandidate
  if s.depth == 0 then throw .malformed
  return { s with depth := s.depth - 1, keyAllowed := false, cursor := s.cursor.next }.push token

/-- The comma between two entries of a flow collection. -/
def takeFlowEntry (s : Scan) : Except Fault Scan := do
  let s ← s.dropCandidate
  return { s with keyAllowed := true, cursor := s.cursor.next }.push .flowEntry

/-- The mark of a sequence entry. -/
def takeBlockEntry (s : Scan) : Except Fault Scan := do
  if s.depth == 0 && !s.keyAllowed then throw .malformed
  let s := if s.depth == 0 then s.openBlock s.column s.tokens.size .blockSequenceStart else s
  let s ← s.dropCandidate
  return { s with keyAllowed := true, cursor := s.cursor.next }.push .blockEntry

/-- The mark of a key. -/
def takeKey (s : Scan) : Except Fault Scan := do
  if s.depth == 0 && !s.keyAllowed then throw .malformed
  let s := if s.depth == 0 then s.openBlock s.column s.tokens.size .blockMappingStart else s
  let s ← s.dropCandidate
  return { s with keyAllowed := s.depth == 0, cursor := s.cursor.next }.push .key

/-- The mark of a value, which makes a key of the candidate at this depth. -/
def takeValue (s : Scan) : Except Fault Scan := do
  match s.candidates.find? (·.depth == s.depth) with
  | some key =>
    let s :=
      { s with
        candidates := s.candidates.filter (·.depth != s.depth)
        tokens := s.tokens.insertIdxIfInBounds key.position .key }
    let s :=
      if s.depth == 0 then s.openBlock key.place.column key.position .blockMappingStart else s
    return { s with keyAllowed := false, cursor := s.cursor.next }.push .value
  | none =>
    if s.depth == 0 && !s.keyAllowed then throw .malformed
    let s := if s.depth == 0 then s.openBlock s.column s.tokens.size .blockMappingStart else s
    let s ← s.dropCandidate
    return { s with keyAllowed := s.depth == 0, cursor := s.cursor.next }.push .value

/-- A token with which a key can begin and after which none can. -/
def takeWord (s : Scan) (read : Cursor → Except Fault (Token × Cursor)) : Except Fault Scan := do
  let s ← s.offerKey
  let (token, k) ← read s.cursor
  return { s with keyAllowed := false, cursor := k }.push token

/-- A block scalar. -/
def takeBlockScalar (s : Scan) (folded : Bool) : Except Fault Scan := do
  let s ← s.dropCandidate
  let (text, k) ← Block.scan folded s.indent s.cursor
  return { s with keyAllowed := true, cursor := k }.push (.scalar false text)

/-- A plain scalar, which a key can follow if a line end does. -/
def takePlain (s : Scan) : Except Fault Scan := do
  let s ← s.offerKey
  let (text, newLine, k) := Plain.scan (s.depth != 0) s.indent s.cursor
  return { s with keyAllowed := newLine, cursor := k }.push (.scalar true text)

/-! ## The next token -/

/-- The place of the next token, behind spaces, comments and line ends, and whether a line end was passed. -/
def passGap : (ahead : Text) → Cursor → Bool × Cursor
  | [], k => (false, k)
  | _ :: ahead, k =>
    let k := k.skipWhile (· == ' ')
    let k := if k.peek == some '#' then k.skipWhile (!isBreak ·) else k
    match k.lineBreak with
    | ([], k) => (false, k)
    | (_, k) => (true, (passGap ahead k).2)

/-- The characters that begin no plain scalar, or none unless a word follows. -/
def indicators : List Char :=
  ['-', '?', ':', ',', '[', ']', '{', '}', '#', '&', '*', '!', '|', '>', '\'', '"', '%', '@', '\u0060']

/-- Whether a plain scalar begins with `c` here. -/
def plainBegins (s : Scan) (c : Char) : Bool :=
  !(endsWord (some c) || indicators.contains c) ||
    (!endsWord (s.cursor.peekAt 1) && (c == '-' || (s.depth == 0 && (c == '?' || c == ':'))))

/-- The state behind white space, comments and closed collections, where a token begins. -/
def settle (s : Scan) : Except Fault Scan := do
  let k := if s.cursor.index == 0 && s.cursor.peek == some '\uFEFF' then s.cursor.next else s.cursor
  let (newLine, k) := passGap k.rest k
  let s := { s with cursor := k, keyAllowed := s.keyAllowed || (newLine && s.depth == 0) }
  let s ← s.dropExpired
  return s.closeBlocks s.column

/-- The state with the token that `c` begins. -/
def take (s : Scan) (c : Char) : Except Fault Scan :=
  let k := s.cursor
  let marks := s.depth != 0 || endsWord (k.peekAt 1)
  let quoted (double : Bool) (k : Cursor) : Except Fault (Token × Cursor) := do
    let (text, k) ← Quoted.scan double k
    return (.scalar false text, k)
  if c == '%' && k.column == 0 then s.takeMarginal Directive.scan
  else if k.column == 0 && k.isMarker '-' then
    s.takeMarginal fun k => .ok (.documentStart, k.skip 3)
  else if k.column == 0 && k.isMarker '.' then
    s.takeMarginal fun k => .ok (.documentEnd, k.skip 3)
  else if c == '[' then s.takeFlowStart .flowSequenceStart
  else if c == '{' then s.takeFlowStart .flowMappingStart
  else if c == ']' then s.takeFlowEnd .flowSequenceEnd
  else if c == '}' then s.takeFlowEnd .flowMappingEnd
  else if c == ',' then s.takeFlowEntry
  else if c == '-' && endsWord (k.peekAt 1) then s.takeBlockEntry
  else if c == '?' && marks then s.takeKey
  else if c == ':' && marks then s.takeValue
  else if c == '*' then s.takeWord fun k => (scanName k).map fun (name, k) => (.alias name, k)
  else if c == '&' then s.takeWord fun k => (scanName k).map fun (name, k) => (.anchor name, k)
  else if c == '!' then s.takeWord WrittenTag.scan
  else if c == '|' && s.depth == 0 then s.takeBlockScalar false
  else if c == '>' && s.depth == 0 then s.takeBlockScalar true
  else if c == '\'' then s.takeWord (quoted false)
  else if c == '"' then s.takeWord (quoted true)
  else if s.plainBegins c then s.takePlain
  else .error .malformed

/-- The state with one more token, or at the end of the stream. -/
def extend (s : Scan) : Except Fault Scan := do
  let s ← s.settle
  match s.cursor.peek with
  | none => s.finish
  | some c => s.take c

/-! ## One token at a time -/

/-- Whether the next token may yet turn out to be a key. -/
def isOpen (s : Scan) : Bool := s.candidates.any (·.position == s.passed)

/-- The state in which the next token is certain; each round passes a character or ends the stream. -/
def certain : (fuel : Nat) → Scan → Except Fault Scan
  | 0, _ => .error .malformed
  | fuel + 1, s =>
    if s.isWhole then .ok s
    else if s.passed == s.tokens.size then do certain fuel (← s.extend)
    else do
      let s ← s.dropExpired
      if s.isOpen then certain fuel (← s.extend) else return s

/-- The next token, where one is certain, or nothing at the end of the stream. -/
def next? (s : Scan) : Option Token := s.tokens[s.passed]?

/-- The state behind the next token. -/
def pass (s : Scan) : Scan := { s with passed := s.passed + 1 }

end Scan

end TraitDoc.Yaml
