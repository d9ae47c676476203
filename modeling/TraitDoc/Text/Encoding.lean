import TraitDoc.Text.Basic
/-!
# Texts as bytes

Files hold bytes. A text is written as UTF-8; bytes are read as UTF-8 strictly,
so bytes that encode no text are refused, and a byte-order mark is a character
like any other. Reading a text file also unifies its line ends: a carriage
return, alone or before a line feed, becomes a line feed. Writing leaves line
ends alone.

Every text has bytes. The halves of characters that some formats can spell on
their own have none; they are no characters, so no text holds them.

## Main definitions

* `Text.encode`, `Text.decode?` — a text and its bytes.
* `Text.unifyLineEnds` — line ends as line feeds.
* `Text.ofFile?` — the text that a text file holds.

## Main statements

* `Text.decode?_encode`, `Text.encode_injective` — what was written reads back.
-/

namespace TraitDoc.Text

/-- The bytes of a text. -/
def encode (s : Text) : ByteArray := (String.ofList s).toUTF8

/-- The text that bytes encode. -/
def decode? (bytes : ByteArray) : Option Text := (String.fromUTF8? bytes).map String.toList

/-- What was written reads back. -/
theorem decode?_encode (s : Text) : decode? (encode s) = some s := by
  have h : String.fromUTF8? (String.ofList s).toUTF8 = some (String.ofList s) := by
    have hvalid : (String.ofList s).toUTF8.IsValidUTF8 := (String.ofList s).isValidUTF8
    rw [String.fromUTF8?, dif_pos hvalid]
    rfl
  rw [decode?, encode, h, Option.map_some, String.toList_ofList]

/-- Different texts have different bytes. -/
theorem encode_injective {s t : Text} (h : encode s = encode t) : s = t := by
  have hdecode := decode?_encode s
  rw [h, decode?_encode] at hdecode
  exact (Option.some.inj hdecode).symm

/-- The number of bytes of a text. -/
def byteLength : Text → Nat
  | [] => 0
  | c :: s => c.utf8Size + byteLength s

/-- The text with every line end spelled as a line feed. -/
def unifyLineEnds : Text → Text
  | [] => []
  | '\r' :: '\n' :: s => '\n' :: unifyLineEnds s
  | c :: s => (if c = '\r' then '\n' else c) :: unifyLineEnds s

/-- The text that a text file with these bytes holds. -/
def ofFile? (bytes : ByteArray) : Option Text := (decode? bytes).map unifyLineEnds

end TraitDoc.Text
