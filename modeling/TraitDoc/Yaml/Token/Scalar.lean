import TraitDoc.Yaml.Cursor
import TraitDoc.Yaml.Fault
/-!
# The text of scalars

A scalar is written plain, between quotes, or as a block of lines. This module
reads each of the three forms, from the place where it begins, into the text
that it stands for.

All forms may run over several lines, and all *fold* them: a single line end
counts as a space and of several line ends the first is dropped. A literal block
keeps its line ends. The separators `U+2028` and `U+2029` are line ends that are
never folded.

The recursions are on the text that is ahead when the reading begins, since each
round passes at least one of its characters.

## Main definitions

* `Quoted.scan` — scalars in single or double quotes.
* `Block.scan` — literal and folded blocks.
* `Plain.scan` — plain scalars.
-/

namespace TraitDoc.Yaml

/-- The text that a line end and the empty lines after it stand for where lines are folded. -/
def foldBreaks (first empty : Text) : Text :=
  if first != ['\n'] then first ++ empty else if empty.isEmpty then [' '] else empty

/-! ## Quoted scalars -/

namespace Quoted

/-- The characters that a backslash and a letter stand for in double quotes. -/
def escapes : List (Char × Char) :=
  [('0', '\x00'), ('a', '\x07'), ('b', '\x08'), ('t', '\t'), ('\t', '\t'), ('n', '\n'),
   ('v', '\x0B'), ('f', '\x0C'), ('r', '\r'), ('e', '\x1B'), (' ', ' '), ('"', '"'),
   ('\\', '\\'), ('/', '/'), ('N', '\u0085'), ('_', '\u00A0'), ('L', '\u2028'), ('P', '\u2029')]

/-- The letters that begin the code of a character, with the number of its digits. -/
def codeLengths : List (Char × Nat) := [('x', 2), ('u', 4), ('U', 8)]

/-- The number that hexadecimal digits denote. -/
def hexNumber? (digits : Text) : Option Nat :=
  digits.foldlM (fun n c => (hexDigit? c).map (16 * n + ·)) 0

/-- The largest code that is computed with; the largest of a character is far smaller. -/
def codeLimit : Nat := 0x7FFFFFFF

/--
The character with a code. A text holds whole characters only, so half of one gives the replacement
character; there are readers that keep it.
-/
def charOfCode (code : Nat) : Except Fault Char :=
  if codeLimit < code then .error .outOfRange
  else if 0x10FFFF < code then .error .impossible
  else if code.isValidChar then .ok (Char.ofNat code)
  else .ok '\uFFFD'

/-- The code that so many digits ahead spell, and the place after them. -/
def code? (digits : Nat) (k : Cursor) : Option (Nat × Cursor) := do
  let word := k.rest.take digits
  guard (word.length == digits)
  return (← hexNumber? word, k.skip digits)

/--
Where `high` is the first half of a character that two codes make up, the character whose second
half is ahead. Readers that keep halves keep these two apart.
-/
def otherHalf? (high : Nat) (k : Cursor) : Option (Char × Cursor) := do
  guard (0xD800 ≤ high && high < 0xDC00 && k.peek == some '\\')
  let (low, k) ← code? (← codeLengths.lookup (← k.peekAt 1)) (k.skip 2)
  guard (0xDC00 ≤ low && low < 0xE000)
  return (Char.ofNat (0x10000 + 0x400 * (high - 0xD800) + (low - 0xDC00)), k)

/-- The empty lines ahead, with the white space that begins each of them and the line after them. -/
def breaks : (ahead : Text) → Cursor → Except Fault (Text × Cursor)
  | [], k => .ok ([], k)
  | _ :: ahead, k => do
    if k.isSeparator then throw .malformed
    let k := k.skipWhile fun c => c == ' ' || c == '\t'
    match k.lineBreak with
    | ([], k) => return ([], k)
    | (one, k) => do
      let (more, k) ← breaks ahead k
      return (one ++ more, k)

/-- What the characters after a backslash stand for. -/
def escape (k : Cursor) : Except Fault (Text × Cursor) :=
  match k.peek with
  | none => .error .malformed
  | some c =>
    match escapes.lookup c, codeLengths.lookup c with
    | some meant, _ => .ok ([meant], k.next)
    | none, some digits => do
      let some (code, k) := code? digits k.next | throw .malformed
      match otherHalf? code k with
      | some (whole, k) => return ([whole], k)
      | none => return ([← charOfCode code], k)
    | none, none => do
      if !isBreak c then throw .malformed
      let k := k.lineBreak.2
      breaks k.rest k

/-- The characters up to white space, a line end or the closing quote, in reverse before `done`. -/
def run (double : Bool) : (ahead : Text) → (done : Text) → Cursor → Except Fault (Text × Cursor)
  | [], done, k => .ok (done, k)
  | _ :: ahead, done, k =>
    match k.rest with
    | [] => .ok (done, k)
    | c :: rest =>
      if !double && c == '\'' && rest.head? == some '\'' then run double ahead ('\'' :: done) (k.skip 2)
      else if (double && c == '\'') || (!double && (c == '"' || c == '\\')) then
        run double ahead (c :: done) k.next
      else if double && c == '\\' then do
        let (meant, k) ← escape k.next
        run double ahead (meant.reverse ++ done) k
      else if c == '\'' || c == '"' || endsWord (some c) then .ok (done, k)
      else run double ahead (c :: done) k.next

/-- The white space ahead, folded where it holds line ends. -/
def gap (k : Cursor) : Except Fault (Text × Cursor) := do
  let (spaces, k) := k.span fun c => c == ' ' || c == '\t'
  if k.rest.isEmpty then throw .malformed
  match k.lineBreak with
  | ([], k) => return (spaces, k)
  | (first, k) =>
    let (empty, k) ← breaks k.rest k
    return (foldBreaks first empty, k)

/-- All up to the closing quote, in reverse before `done`. -/
def body (double : Bool) : (ahead : Text) → (done : Text) → Cursor → Except Fault (Text × Cursor)
  | [], _, _ => .error .malformed
  | _ :: ahead, done, k => do
    let (done, k) ← run double k.rest done k
    if k.peek == some (if double then '"' else '\'') then return (done, k.next)
    let (space, k) ← gap k
    body double ahead (space.reverse ++ done) k

/-- The text of the quoted scalar whose opening quote is ahead. -/
def scan (double : Bool) (k : Cursor) : Except Fault (Text × Cursor) := do
  let (done, k) ← body double k.rest [] k.next
  return (done.reverse, k)

end Quoted

/-! ## Block scalars -/

namespace Block

/-- What becomes of the line ends behind the last line of a block. -/
inductive Chomping
  /-- The first one stays. -/
  | clip
  /-- None stays. -/
  | strip
  /-- All stay. -/
  | keep
deriving DecidableEq, Repr

/-- The chomping that a sign stands for. -/
def Chomping.ofSign? : Option Char → Option Chomping
  | some '+' => some .keep
  | some '-' => some .strip
  | _ => none

/-- The indentation that a digit stands for. -/
def increment? (ahead : Option Char) : Option Nat :=
  ahead.bind fun c => if c.isDigit then some (c.toNat - '0'.toNat) else none

/-- The chomping and the indentation that the head of a block states, in either order. -/
def indicators (k : Cursor) : Except Fault (Chomping × Option Nat × Cursor) := do
  let (chomping, increment, k) :=
    match Chomping.ofSign? k.peek, increment? k.peek with
    | some chomping, _ =>
      match increment? k.next.peek with
      | some n => (chomping, some n, k.skip 2)
      | none => (chomping, none, k.next)
    | none, some n =>
      match Chomping.ofSign? k.next.peek with
      | some chomping => (chomping, some n, k.skip 2)
      | none => (.clip, some n, k.next)
    | none, none => (.clip, none, k)
  if increment == some 0 then throw .malformed
  if !endsMark k.peek then throw .malformed
  return (chomping, increment, k)

/-- The place after the rest of a line that holds nothing but spaces and a comment. -/
def emptyLine (k : Cursor) : Except Fault Cursor := do
  let k := k.skipWhile (· == ' ')
  let k := if k.peek == some '#' then k.skipWhile (!isBreak ·) else k
  if !endsLine k.peek then throw .malformed
  return k.lineBreak.2

/-- The empty lines before the first line of a block, and the widest indentation seen so far. -/
def leadingBreaks : (ahead : Text) → (widest : Nat) → Cursor → Text × Nat × Cursor
  | [], widest, k => ([], widest, k)
  | _ :: ahead, widest, k =>
    if k.peek == some ' ' then leadingBreaks ahead (max widest k.next.column) k.next
    else
      match k.lineBreak with
      | ([], k) => ([], widest, k)
      | (one, k) =>
        let (more, widest, k) := leadingBreaks ahead widest k
        (one ++ more, widest, k)

/-- The place after the spaces that indent a line, no more than `indent` of them. -/
def skipIndent (indent : Nat) : (fuel : Nat) → Cursor → Cursor
  | 0, k => k
  | fuel + 1, k =>
    if k.column < indent && k.peek == some ' ' then skipIndent indent fuel k.next else k

/-- The empty lines ahead, and the place where the line after them begins behind its indentation. -/
def breaks (indent : Nat) : (ahead : Text) → Cursor → Text × Cursor
  | [], k => ([], k)
  | _ :: ahead, k =>
    let k := skipIndent indent indent k
    match k.lineBreak with
    | ([], k) => ([], k)
    | (one, k) =>
      let (more, k) := breaks indent ahead k
      (one ++ more, k)

/-- Whether a line of a block with that indentation begins here. -/
def lineBegins (indent : Nat) (k : Cursor) : Bool := k.column == indent && k.peek.isSome

/--
The lines of a block, in reverse before `done`, where `empty` lines come before the first of them;
with them go the line end of the last line and the empty lines behind it.
-/
def lines (folded : Bool) (indent : Nat) :
    (ahead : Text) → (done empty : Text) → Cursor → Text × Text × Text × Cursor
  | [], done, empty, k => (done, [], empty, k)
  | _ :: ahead, done, empty, k =>
    if lineBegins indent k then
      let flush := !isAhead k.peek [' ', '\t']
      let (line, k) := k.span (!isBreak ·)
      let done := line.reverse ++ (empty.reverse ++ done)
      let (first, k) := k.lineBreak
      let (empty, k) := breaks indent k.rest k
      if lineBegins indent k then
        let joint :=
          if folded && first == ['\n'] && flush && !isAhead k.peek [' ', '\t'] then
            if empty.isEmpty then [' '] else []
          else first
        lines folded indent ahead (joint ++ done) empty k
      else (done, first, empty, k)
    else (done, [], empty, k)

/-- The text of the block whose indicator is ahead, below a collection indented by `parent` columns. -/
def scan (folded : Bool) (parent : Int) (k : Cursor) : Except Fault (Text × Cursor) := do
  let (chomping, increment, k) ← indicators k.next
  let k ← emptyLine k
  let least := max 1 (parent + 1).toNat
  let (empty, indent, k) :=
    match increment with
    | none =>
      let (empty, widest, k) := leadingBreaks k.rest 0 k
      (empty, max least widest, k)
    | some n =>
      let indent := least + n - 1
      let (empty, k) := breaks indent k.rest k
      (empty, indent, k)
  let (done, last, empty, k) := lines folded indent k.rest [] empty k
  let text := done.reverse
  match chomping with
  | .strip => return (text, k)
  | .clip => return (text ++ last, k)
  | .keep => return (text ++ last ++ empty, k)

end Block

/-! ## Plain scalars -/

namespace Plain

/-- The characters that end a plain scalar inside a flow collection. -/
def flowMarks : List Char := [',', '?', '[', ']', '{', '}']

/-- The characters that make a colon before them a value mark inside a flow collection. -/
def flowAfterColon : List Char := [',', '[', ']', '{', '}']

/-- The length of the run of plain characters with which the text begins. -/
def runLength (flow : Bool) : Text → Nat
  | [] => 0
  | c :: rest =>
    if endsWord (some c) || (flow && flowMarks.contains c) then 0
    else if c == ':' && (endsWord rest.head? || (flow && isAhead rest.head? flowAfterColon)) then 0
    else runLength flow rest + 1

/-- The empty lines ahead, with their spaces; nothing where a document marker follows a line end. -/
def breaks : (ahead : Text) → Cursor → Option Text × Cursor
  | [], k => (some [], k)
  | _ :: ahead, k =>
    let k := k.skipWhile (· == ' ')
    match k.lineBreak with
    | ([], k) => (some [], k)
    | (one, k) =>
      if k.isSeparator then (none, k)
      else
        let (more, k) := breaks ahead k
        (more.map (one ++ ·), k)

/-- The space between two runs, empty where the scalar ends, and whether it holds a line end. -/
def gap (k : Cursor) : Text × Bool × Cursor :=
  let (spaces, k) := k.span (· == ' ')
  match k.lineBreak with
  | ([], k) => (spaces, false, k)
  | (first, k) =>
    if k.isSeparator then ([], true, k)
    else
      let (empty, k) := breaks k.rest k
      ((empty.map (foldBreaks first)).getD [], true, k)

/--
The runs ahead, in reverse before `done`, where `space` comes before the first of them; the flag
tells whether a line end was passed last.
-/
def runs (flow : Bool) (indent : Int) :
    (ahead : Text) → (done space : Text) → (newLine : Bool) → Cursor → Text × Bool × Cursor
  | [], done, _, newLine, k => (done, newLine, k)
  | _ :: ahead, done, space, newLine, k =>
    let length := if k.peek == some '#' then 0 else runLength flow k.rest
    if length = 0 then (done, newLine, k)
    else
      let done := (k.rest.take length).reverse ++ (space.reverse ++ done)
      let (space, newLine, k) := gap (k.skip length)
      if space.isEmpty || k.peek == some '#' || (!flow && (k.column : Int) < indent) then
        (done, newLine, k)
      else runs flow indent ahead done space newLine k

/-- The text of the plain scalar ahead, below a collection indented by `parent` columns, and whether a line end follows it. -/
def scan (flow : Bool) (parent : Int) (k : Cursor) : Text × Bool × Cursor :=
  let (done, newLine, k) := runs flow (parent + 1) k.rest [] [] false k
  (done.reverse, newLine, k)

end Plain

end TraitDoc.Yaml
