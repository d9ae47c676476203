import TraitDoc.Text.Encoding
import TraitDoc.Yaml.Cursor
import TraitDoc.Yaml.Fault
import TraitDoc.Yaml.Number
import TraitDoc.Yaml.Token.Basic
/-!
# Tags, anchors and directives

The tokens that begin with `!`, `&`, `*` and `%`, read from the place where
they begin.

A tag is written in full between angle brackets, or with a handle that stands
for its beginning. Percent signs in a tag spell the bytes of characters that a
tag cannot hold.

## Main definitions

* `scanName` — the name of an anchor or an alias.
* `WrittenTag.scan` — a tag.
* `Directive.scan` — a directive with the rest of its line.
-/

namespace TraitDoc.Yaml

/-- The name of an anchor or an alias, whose mark is ahead. -/
def scanName (k : Cursor) : Except Fault (Text × Cursor) := do
  let (name, k) := k.next.span isNameChar
  if name.isEmpty then throw .malformed
  if !(endsWord k.peek || isAhead k.peek ['?', ':', ',', ']', '}', '%', '@', '\u0060']) then
    throw .malformed
  return (name, k)

/-! ## Tags -/

namespace WrittenTag

/-- The bytes that the percent signs ahead spell, two hexadecimal digits each. -/
def escapedBytes : (ahead : Text) → Cursor → Except Fault (List UInt8 × Cursor)
  | [], k => .ok ([], k)
  | _ :: ahead, k => do
    if k.peek != some '%' then return ([], k)
    let some high := (k.peekAt 1).bind hexDigit? | throw .malformed
    let some low := (k.peekAt 2).bind hexDigit? | throw .malformed
    let (more, k) ← escapedBytes ahead (k.skip 3)
    return (UInt8.ofNat (16 * high + low) :: more, k)

/-- The characters of a tag ahead, with escapes read. -/
def uriRuns : (ahead : Text) → Cursor → Except Fault (Text × Cursor)
  | [], k => .ok ([], k)
  | _ :: ahead, k => do
    let (run, k) := k.span fun c => isUriChar c && c != '%'
    if k.peek != some '%' then return (run, k)
    let (bytes, k) ← escapedBytes k.rest k
    let some decoded := Text.decode? ⟨bytes.toArray⟩ | throw .malformed
    let (more, k) ← uriRuns ahead k
    return (run ++ decoded ++ more, k)

/-- The characters of a tag ahead, at least one. -/
def uri (k : Cursor) : Except Fault (Text × Cursor) := do
  if !(k.peek.any isUriChar) then throw .malformed
  uriRuns k.rest k

/-- The handle ahead: an exclamation mark alone before a space, else two with a name between. -/
def handle (k : Cursor) : Except Fault (Text × Cursor) := do
  if k.peek != some '!' then throw .malformed
  if k.peekAt 1 == some ' ' then return (['!'], k.next)
  let (name, k) := k.next.span isNameChar
  if k.peek != some '!' then throw .malformed
  return (['!'] ++ name ++ ['!'], k.next)

/-- Whether a second exclamation mark stands in the word ahead. -/
def hasHandle (k : Cursor) : Bool :=
  (k.next.span fun c => c != '!' && !endsMark (some c)).2.peek == some '!'

/-- The tag ahead. -/
def scan (k : Cursor) : Except Fault (Token × Cursor) := do
  let (token, k) ←
    if k.peekAt 1 == some '<' then do
      let (suffix, k) ← uri (k.skip 2)
      if k.peek != some '>' then throw .malformed
      pure (Token.tag none suffix, k.next)
    else if endsWord (k.peekAt 1) then
      pure (Token.tag none ['!'], k.next)
    else do
      let (stem, k) ← if hasHandle k then handle k else pure (['!'], k.next)
      let (suffix, k) ← uri k
      pure (Token.tag (some stem) suffix, k)
  if !endsMark k.peek then throw .malformed
  return (token, k)

end WrittenTag

/-! ## Directives -/

namespace Directive

/-- The number ahead, with at least one digit and no more than are read. -/
def number (k : Cursor) : Except Fault (Nat × Cursor) := do
  let (digits, k) := k.span Char.isDigit
  if digits.isEmpty then throw .malformed
  if Number.digitLimit < digits.length then throw .impossible
  return (Number.ofDigits 10 digits, k)

/-- The value of a version directive. -/
def version (k : Cursor) : Except Fault (Token × Cursor) := do
  let (major, k) ← number (k.skipWhile (· == ' '))
  if k.peek != some '.' then throw .malformed
  let (_, k) ← number k.next
  if !endsMark k.peek then throw .malformed
  return (.versionDirective major, k)

/-- The value of a tag directive. -/
def tag (k : Cursor) : Except Fault (Token × Cursor) := do
  let (handle, k) ← WrittenTag.handle (k.skipWhile (· == ' '))
  if k.peek != some ' ' then throw .malformed
  let (stem, k) ← WrittenTag.uri (k.skipWhile (· == ' '))
  if !endsMark k.peek then throw .malformed
  return (.tagDirective handle stem, k)

/-- The directive ahead, with the rest of its line. -/
def scan (k : Cursor) : Except Fault (Token × Cursor) := do
  let (name, k) := k.next.span isNameChar
  if name.isEmpty || !endsMark k.peek then throw .malformed
  let (token, k) ←
    if name = "YAML".toList then version k
    else if name = "TAG".toList then tag k
    else pure (.otherDirective, k.skipWhile (!isBreak ·))
  let k := k.skipWhile (· == ' ')
  let k := if k.peek == some '#' then k.skipWhile (!isBreak ·) else k
  if !endsLine k.peek then throw .malformed
  return (token, k.lineBreak.2)

end Directive

end TraitDoc.Yaml
