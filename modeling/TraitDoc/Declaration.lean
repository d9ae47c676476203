import TraitDoc.DocComment
import TraitDoc.Plumbing.Rules
/-!
# Declarations

An annotation source declares one name: after the first documentation comment
comes, after white space, the declaring keyword, more white space and the name,
as a whole word. The *header* is the text up to and including the name. The
*body* runs from the first opening brace after the name to the last closing
brace of the text; bodies are taken to hold no nested braces.

Whatever lies between the name and the body, and whatever follows the body, is
in neither part.

## Main definitions

* `StructureFault` — the three ways in which a text can fail to be a source, and
  the one in which a cleaned header can fail to name its declaration.
* `Declaration` — header and body.
* `Declaration.nameLength?` — a declaration of a name where the text begins.
* `Declaration.findEnd?` — the end of the first declaration of a name.
* `Declaration.locate` — the parts of a source.
-/

namespace TraitDoc

/-! ## Faults -/

/-- Why a text is not the source of the name it should declare. -/
inductive StructureFault
  /-- The text holds no documentation comment. -/
  | noComment
  /-- The name is not declared after the first documentation comment. -/
  | noDeclaration
  /-- No opening brace follows the declaration, or no closing brace follows that one. -/
  | noBody
  /-- The header does not end with the declared name. -/
  | nameLost
deriving DecidableEq, Repr

/-- What is wrong, in words, with the source of `name`. -/
def StructureFault.detail (name : Text) : StructureFault → Text
  | .noComment => "no documentation comment found".toList
  | .noDeclaration =>
    "no '@interface ".toList ++ name ++ "' declaration after the doc comment".toList
  | .noBody => "declaration has no braced body".toList
  | .nameLost => "rewritten header does not end with the declared name".toList

/-- The parts of an annotation source. -/
structure Declaration where
  /-- The text up to and including the declared name. -/
  header : Text
  /-- The braced body, with its braces. -/
  body : Text
deriving DecidableEq, Repr

namespace Declaration

/-! ## Finding the declared name -/

/--
The number of characters up to the end of `name`, where `name` stands as a whole
word after at least one of the first `blanks` characters, which are white space.
The longest run of white space is tried first.
-/
def nameLength? (name s : Text) : (blanks : Nat) → Option Nat
  | 0 => none
  | blanks + 1 =>
    let stop := blanks + 1 + name.length
    if name.isPrefixOf (s.drop (blanks + 1)) &&
        isBoundary (s.take stop).getLast? (s.drop stop).head? then
      some stop
    else nameLength? name s blanks

/-- The length of a declaration of `name` that begins where the text does. -/
def length? (name : Text) : Text → Option Nat
  | [] => none
  | c :: s =>
    if isBlank c && Plumbing.keyword.isPrefixOf s then
      let rest := s.drop Plumbing.keyword.length
      (nameLength? name rest (rest.takeWhile isBlank).length).map
        (1 + Plumbing.keyword.length + ·)
    else none

/-- The end of the first declaration of `name` in the text. -/
def findEnd? (name : Text) : Text → Option Nat
  | [] => none
  | c :: s =>
    match length? name (c :: s) with
    | some n => some n
    | none => (findEnd? name s).map (· + 1)

/-! ## The parts -/

/-- The header and the body of the source that declares `name`. -/
def locate (name source : Text) : Except StructureFault Declaration := do
  let some comment := DocComment.first? source | throw .noComment
  let code := source.drop comment.stop
  let some stop := findEnd? name code | throw .noDeclaration
  let some gap := Text.indexOf? ['{'] (code.drop stop) | throw .noBody
  let some close := Text.lastIndexOf? '}' code | throw .noBody
  if close < stop + gap then throw .noBody
  return ⟨source.take (comment.stop + stop), Text.slice code ⟨stop + gap, close + 1⟩⟩

end Declaration

end TraitDoc
