import TraitDoc.Yaml.Base64
import TraitDoc.Yaml.Fault
import TraitDoc.Yaml.Node.Basic
import TraitDoc.Yaml.Value
/-!
# What scalars say

The value of a scalar of each type, or why it has none. A mapping can stand where
a scalar is called for: then the scalar is the value under its first key of the
value type.

## Main definitions

* `Value.reader?` — how the scalars of a type are read.
* `Nodes.scalarText` — the text of a node that should be a scalar.
* `Nodes.scalar` — the value of a node that should be a scalar.
-/

namespace TraitDoc.Yaml

/-- The value of a scalar that is read as a number. -/
def Value.ofNumber : Except Number.Fault Bool → Except Fault Value
  | .ok isZero => .ok (.number isZero)
  | .error .empty => .error .emptyNumber
  | .error .impossible => .error .impossible
  | .error .outOfRange => .error .outOfRange

/-- The truth or falsehood that a scalar says. -/
def Value.ofBooleanWord (text : Text) : Except Fault Value :=
  match booleanWords.lookup (text.map Char.toLower) with
  | some b => .ok (.boolean b)
  | none => .error .unknownBoolean

/-- The bytes that a scalar spells in base 64. -/
def Value.ofBase64 (text : Text) : Except Fault Value :=
  if text.all fun c => c.toNat < 0x80 then
    match Base64.spellsNone? text with
    | some isNone => .ok (.bytes isNone)
    | none => .error .malformed
  else .error .malformed

/-- The date or time that a scalar spells. -/
def Value.ofTimestamp (text : Text) : Except Fault Value :=
  match Moment.ofText? text with
  | none => .error .notTimestamp
  | some m => if m.isReal then .ok .moment else .error .impossible

/-- How the scalars of a type are read, if the type is one of scalars. -/
def Value.reader? : Tag → Option (Text → Except Fault Value)
  | .null => some fun _ => .ok .null
  | .boolean => some Value.ofBooleanWord
  | .integer => some fun text => Value.ofNumber (Number.isZeroInteger? text)
  | .float => some fun text => Value.ofNumber (Number.isZeroFloat? text)
  | .binary => some Value.ofBase64
  | .timestamp => some Value.ofTimestamp
  | .text => some fun text => .ok (.text text)
  | _ => none

namespace Nodes

/-- The text of a scalar, or of the value under the first value key of a mapping. -/
def scalarText (nodes : Nodes) : (fuel : Nat) → Nat → Except Fault Text
  | 0, _ => .error .endless
  | fuel + 1, n =>
    match nodes.content n with
    | .scalar text => .ok text
    | .sequence _ => .error .malformed
    | .mapping entries =>
      match entries.find? fun entry => nodes.tag entry.1 = .value with
      | some (_, value) => scalarText nodes fuel value
      | none => .error .malformed

/-- The value of a node that should be a scalar, though a date must be one itself. -/
def scalar (nodes : Nodes) (n : Nat) : Except Fault Value :=
  match Value.reader? (nodes.tag n) with
  | none => .error .malformed
  | some read => do
    let text ← nodes.scalarText (nodes.size + 1) n
    if nodes.tag n = .timestamp && (nodes.entries? n).isSome then throw .mappedTimestamp
    read text

end Nodes

end TraitDoc.Yaml
