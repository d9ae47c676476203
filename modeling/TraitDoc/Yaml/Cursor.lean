import TraitDoc.Yaml.Character
/-!
# Cursors

A place in a YAML stream: what lies ahead, and how far it is from the start of
the stream and of the line. Line and column matter to YAML, since indentation
is structure, and so does the distance from the start, since a key must not be
too long.

A byte-order mark takes no column. The two characters of a carriage return with
a line feed are one line end.

## Main definitions

* `Cursor`, `Cursor.start` — places.
* `Cursor.next`, `Cursor.skip`, `Cursor.span` — moving on.
* `Cursor.lineBreak` — reading one line end.
-/

namespace TraitDoc.Yaml

/-- A place in a stream. -/
structure Cursor where
  /-- What lies ahead. -/
  rest : Text
  /-- The number of characters passed. -/
  index : Nat
  /-- The number of lines passed. -/
  line : Nat
  /-- The number of columns passed on this line. -/
  column : Nat
deriving Repr

namespace Cursor

/-- The start of a stream. -/
def start (stream : Text) : Cursor := ⟨stream, 0, 0, 0⟩

/-- The character ahead. -/
def peek (k : Cursor) : Option Char := k.rest.head?

/-- The character ahead of the next `n` ones. -/
def peekAt (k : Cursor) (n : Nat) : Option Char := k.rest[n]?

/-- The place after the next character. -/
def next (k : Cursor) : Cursor :=
  match k.rest with
  | [] => k
  | c :: rest =>
    if isBreak c && !(c == '\r' && rest.head? == some '\n') then
      ⟨rest, k.index + 1, k.line + 1, 0⟩
    else ⟨rest, k.index + 1, k.line, if c == '\uFEFF' then k.column else k.column + 1⟩

/-- The place after the next `n` characters. -/
def skip (k : Cursor) : Nat → Cursor
  | 0 => k
  | n + 1 => k.next.skip n

/-- The longest run of characters that satisfy `p`, and the place after it. -/
def span (k : Cursor) (p : Char → Bool) : Text × Cursor :=
  let run := k.rest.takeWhile p
  (run, k.skip run.length)

/-- The place after the longest run of characters that satisfy `p`. -/
def skipWhile (k : Cursor) (p : Char → Bool) : Cursor := (k.span p).2

/-- The line end ahead as it counts in a text, empty where there is none, and the place after it. -/
def lineBreak (k : Cursor) : Text × Cursor :=
  match k.rest with
  | '\r' :: '\n' :: _ => (['\n'], k.skip 2)
  | c :: _ =>
    if c == '\n' || c == '\r' || c == '\u0085' then (['\n'], k.next)
    else if isBreak c then ([c], k.next)
    else ([], k)
  | [] => ([], k)

/-- Whether a document marker, three times the same given character, stands here as a word. -/
def isMarker (k : Cursor) (mark : Char) : Bool :=
  [mark, mark, mark].isPrefixOf k.rest && endsWord (k.peekAt 3)

/-- Whether one of the two document markers stands here. -/
def isSeparator (k : Cursor) : Bool := k.isMarker '-' || k.isMarker '.'

end Cursor

end TraitDoc.Yaml
