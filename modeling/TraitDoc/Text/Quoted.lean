import TraitDoc.Text.Printable
/-!
# Quoted texts

A message shows a file's name between quotes, in a spelling that can be read on
one line whatever the name holds. The quotes are single ones, unless the text
has a single quote and no double one. Inside, a backslash and the chosen quote
stand behind a backslash, tab and line ends have their letters, and any other
character that is not printable is spelled by its code in lower-case
hexadecimal digits: two, four or eight of them, as few as will do.

## Main definitions

* `Text.hexadecimal` — a number in a fixed count of digits.
* `Text.quoted` — the quoted spelling.
-/

namespace TraitDoc.Text

/-- The last `digits` hexadecimal digits of a number. -/
def hexadecimal (digits n : Nat) : Text :=
  match digits with
  | 0 => []
  | digits + 1 => hexadecimal digits (n / 16) ++ [Nat.digitChar (n % 16)]

/-- The quote that delimits the text. -/
def quoteFor (s : Text) : Char := if '\'' ∈ s ∧ '"' ∉ s then '"' else '\''

/-- One character between two copies of `quote`. -/
def quotedChar (quote c : Char) : Text :=
  if c = quote ∨ c = '\\' then ['\\', c]
  else if c = '\t' then ['\\', 't']
  else if c = '\n' then ['\\', 'n']
  else if c = '\r' then ['\\', 'r']
  else if isPrintable c then [c]
  else if c.toNat < 0x100 then ['\\', 'x'] ++ hexadecimal 2 c.toNat
  else if c.toNat < 0x10000 then ['\\', 'u'] ++ hexadecimal 4 c.toNat
  else ['\\', 'U'] ++ hexadecimal 8 c.toNat

/-- The text between quotes, on one line. -/
def quoted (s : Text) : Text :=
  let quote := quoteFor s
  [quote] ++ s.flatMap (quotedChar quote) ++ [quote]

end TraitDoc.Text
