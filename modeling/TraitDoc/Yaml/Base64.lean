import TraitDoc.Text.Basic
/-!
# Bytes spelled in base 64

Four characters of an alphabet of 64 spell three bytes; at the end of the bytes
two or three characters do, filled up to four with equals signs. Characters that
are not in the alphabet count for nothing. Of the bytes only that is asked
whether there are any.
-/

namespace TraitDoc.Yaml.Base64

/-- Whether the character is one of the alphabet. -/
def isDigit (c : Char) : Bool := c.isAlphanum || c == '+' || c == '/'

/--
Whether the characters spell no byte, or nothing where they end inside of one.
`place` is the number of characters passed in this group of four, `filled` the
number of equals signs after them, and `isNone` tells whether no byte has been
complete.
-/
def isNone? (place filled : Nat) (isNone : Bool) : Text → Option Bool
  | [] => if place = 0 then some isNone else none
  | c :: rest =>
    if c == '=' then
      if place < 2 then isNone? place filled isNone rest
      else if 4 ≤ place + filled + 1 then some isNone
      else isNone? place (filled + 1) isNone rest
    else if isDigit c then
      if place = 0 then isNone? 1 0 isNone rest
      else isNone? (if place = 3 then 0 else place + 1) 0 false rest
    else isNone? place filled isNone rest

/-- Whether the text spells no byte, or nothing where it spells no bytes at all. -/
def spellsNone? (s : Text) : Option Bool := isNone? 0 0 true s

end TraitDoc.Yaml.Base64
