import TraitDoc.Text.Basic
/-!
# Values of YAML documents

What a document says. Texts, lists and mappings are kept with their content. Of
the other types only that is kept which a reader of documents asks: whether the
value counts as empty. A document can be endlessly deep, where a collection
contains itself, so the collections at some depth are kept without their
content.

## Main definitions

* `Value` — the values.
* `Value.isEmpty` — the values that count as nothing.
* `Value.put`, `Value.get?` — the entries of a mapping under texts.
-/

namespace TraitDoc.Yaml

/-- What a document, or a part of it, says. -/
inductive Value
  | null
  | boolean (b : Bool)
  /-- A number, of which only that is kept whether it is zero. -/
  | number (isZero : Bool)
  /-- A date or a time. -/
  | moment
  /-- Bytes, of which only that is kept whether there are none. -/
  | bytes (isNone : Bool)
  | text (t : Text)
  | list (items : List Value)
  /-- An entry of an ordered mapping. -/
  | pair (key value : Value)
  | set (members : List Value)
  | mapping (entries : List (Value × Value))
  /-- A collection whose content is not kept. -/
  | closed

namespace Value

/-- Whether the value counts as nothing. -/
def isEmpty : Value → Bool
  | .null => true
  | .boolean b => !b
  | .number isZero => isZero
  | .moment => false
  | .bytes isNone => isNone
  | .text t => t.isEmpty
  | .list items => items.isEmpty
  | .pair _ _ => false
  | .set members => members.isEmpty
  | .mapping entries => entries.isEmpty
  | .closed => false

/-- Whether the value is that text. -/
def isText (t : Text) : Value → Bool
  | .text u => u == t
  | _ => false

/-- The value under a text in the entries of a mapping. -/
def get? (key : Text) (entries : List (Value × Value)) : Option Value :=
  (entries.find? fun e => e.1.isText key).map Prod.snd

/-- The entries with a value put under a text, where the text keeps its position if it is there. -/
def putText (key : Text) (value : Value) : List (Value × Value) → List (Value × Value)
  | [] => [(.text key, value)]
  | e :: rest => if e.1.isText key then (e.1, value) :: rest else e :: putText key value rest

/-- The entries with a value put under a key. -/
def put (entries : List (Value × Value)) (key value : Value) : List (Value × Value) :=
  match key with
  | .text t => putText t value entries
  | key => entries ++ [(key, value)]

/-- The mapping in which the entries are put one after the other. -/
def ofEntries (entries : List (Value × Value)) : Value :=
  .mapping (entries.foldl (fun done e => put done e.1 e.2) [])

end Value

end TraitDoc.Yaml
