import TraitDoc.Text.CharSet
/-!
# Blank characters

The white space of texts: the characters that separate words and that do not
count as content. The set is Unicode's: the controls from tab to carriage
return and the four separators `U+001C` to `U+001F`, the space, `U+0085`,
`U+00A0`, and the characters of the separator categories. The zero-width
characters `U+200B` and `U+FEFF` are not in it.

## Main definitions

* `isBlank` — one character.
* `Text.isBlank` — a text with no content.
-/

namespace TraitDoc

/-- The blank characters. -/
def blanks : CharSet :=
  [(0x09, 0x0D), (0x1C, 0x20), (0x85, 0x85), (0xA0, 0xA0), (0x1680, 0x1680), (0x2000, 0x200A),
   (0x2028, 0x2029), (0x202F, 0x202F), (0x205F, 0x205F), (0x3000, 0x3000)]

example : blanks.size = 29 := by decide

/-- Whether a character is white space. -/
def isBlank (c : Char) : Bool := blanks.contains c

/-- A text without content: every character of it is blank. -/
def Text.isBlank (s : Text) : Bool := s.all TraitDoc.isBlank

end TraitDoc
