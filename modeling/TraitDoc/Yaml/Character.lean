import TraitDoc.Text.Basic
/-!
# Characters of YAML

Which characters a YAML stream may hold, and which of them end lines, separate
words or have a meaning of their own.

The end of the stream often counts like a line end, so the questions that are
asked about the character ahead take an `Option Char`, with `none` for the end.

## Main definitions

* `Yaml.isAllowed` — a character that a stream may hold.
* `Yaml.isBreak`, `Yaml.endsLine`, `Yaml.endsWord`, `Yaml.endsMark` — line ends and gaps.
* `Yaml.isNameChar`, `Yaml.isUriChar` — the characters of anchors and tags.
-/

namespace TraitDoc.Yaml

/-- Whether a stream may hold the character: no control but tab, line ends and `U+0085`. -/
def isAllowed (c : Char) : Bool :=
  c == '\t' || c == '\n' || c == '\r' || (' ' ≤ c && c ≤ '~') || c == '\u0085' ||
    ('\u00A0' ≤ c && c.toNat ≤ 0xFFFD) || 0x10000 ≤ c.toNat

/-- Whether the character ends a line. -/
def isBreak (c : Char) : Bool :=
  c == '\n' || c == '\r' || c == '\u0085' || c == '\u2028' || c == '\u2029'

/-- Whether the line ends here. -/
def endsLine (ahead : Option Char) : Bool := ahead.all isBreak

/-- Whether a space, a line end or the end of the stream lies ahead. -/
def endsMark (ahead : Option Char) : Bool := ahead.all fun c => c == ' ' || isBreak c

/-- Whether white space or the end of the stream lies ahead. -/
def endsWord (ahead : Option Char) : Bool := ahead.all fun c => c == ' ' || c == '\t' || isBreak c

/-- Whether one of the given characters lies ahead. -/
def isAhead (ahead : Option Char) (among : List Char) : Bool := ahead.any among.contains

/-- Whether the character can stand in the name of an anchor, a directive or a tag handle. -/
def isNameChar (c : Char) : Bool := c.isAlphanum || c == '-' || c == '_'

/-- The characters other than letters and digits that can stand in a tag. -/
def uriPunctuation : List Char :=
  ['-', ';', '/', '?', ':', '@', '&', '=', '+', '$', ',', '_', '.', '!', '~', '*', '\'', '(', ')',
   '[', ']', '%']

/-- Whether the character can stand in a tag. -/
def isUriChar (c : Char) : Bool := c.isAlphanum || uriPunctuation.contains c

/-- The value of a hexadecimal digit. -/
def hexDigit? (c : Char) : Option Nat :=
  if c.isDigit then some (c.toNat - '0'.toNat)
  else if 'a' ≤ c ∧ c ≤ 'f' then some (c.toNat - 'a'.toNat + 10)
  else if 'A' ≤ c ∧ c ≤ 'F' then some (c.toNat - 'A'.toNat + 10)
  else none

end TraitDoc.Yaml
