import TraitDoc.Text.Blank
/-!
# The value member

An annotation body may declare one member of interest, `value`, by a line such
as `String[] value();`. In the trait it becomes `def value(): Array[String]`.
A body without that member gives a trait without a body.

The member is looked for from each line start in turn. White space is skipped
first, line feeds included, and the marker `value();` must follow on the line
that this leads to; the text between is the value type. A default value, as in
`value() default 1;`, makes the marker fail to stand there, so such a member is
none.

## Main definitions

* `typeTable`, `traitType` — the value types and what stands for them.
* `Member` — a value member and the text around it.
* `Member.find?` — the first value member of a body.
* `Member.declare` — the body with its value member declared as a method.
-/

namespace TraitDoc

/-! ## Value types -/

/-- The value types a member can have, with the types that stand for them in a trait. -/
def typeTable : List (Text × Text) :=
  [("Class<? extends Suite>".toList, "Class[_ <: Suite]".toList),
   ("String".toList, "String".toList),
   ("String[]".toList, "Array[String]".toList)]

/-- A value type that the table does not hold. -/
structure UnknownType where
  valueType : Text
deriving DecidableEq, Repr

/-- The type in a trait for the type of a value member. -/
def traitType (valueType : Text) : Except UnknownType Text :=
  match typeTable.lookup valueType with
  | some type => .ok type
  | none => .error ⟨valueType⟩

/-! ## Members -/

/-- A value member and the text around it. -/
structure Member where
  /-- What comes before the line start from which the member was found. -/
  before : Text
  /-- The white space skipped from there. -/
  indent : Text
  /-- The declared type. -/
  valueType : Text
  /-- What follows the marker. -/
  after : Text
deriving DecidableEq, Repr

namespace Member

/-- What follows the type of a value member. -/
def marker : Text := "value();".toList

/-- The value member found from a line start, which is where the text begins. -/
def atLineStart? (s : Text) : Option Member := do
  let code := s.dropWhile isBlank
  let start ← Text.indexOf? marker (Text.line code)
  return {
    before := []
    indent := s.takeWhile isBlank
    valueType := Text.dropTrailing ' ' (code.take start)
    after := code.drop (start + marker.length) }

/-- The first value member of a text, where the flag tells whether a line begins with it. -/
def findFrom? (lineStart : Bool) (s : Text) : Option Member :=
  let here := if lineStart then atLineStart? s else none
  match here, s with
  | some m, _ => some m
  | none, [] => none
  | none, c :: rest =>
    (findFrom? (c == '\n') rest).map fun m => { m with before := c :: m.before }

/-- The first value member of a body. -/
def find? (body : Text) : Option Member := findFrom? true body

/-- What begins the declaration of the value member as a method. -/
def method : Text := "def value(): ".toList

/-- The body with its value member declared as a method, or nothing where it has no such member. -/
def declare (body : Text) : Except UnknownType Text :=
  match find? body with
  | none => .ok []
  | some m => do
    let type ← traitType m.valueType
    return m.before ++ m.indent ++ method ++ type ++ m.after

end Member

end TraitDoc
