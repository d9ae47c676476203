import TraitDoc.Declaration
import TraitDoc.Member
import TraitDoc.Plumbing.AroundComments
/-!
# Trait files

The trait that documents an annotation: the cleaned header, with the declared
name at its end replaced by the declaration of a trait of that name.

## Main definitions

* `RenderFault` — why a source has no trait.
* `Trait.ofParts` — header and body joined into the trait's text.
* `Trait.ofSource` — the text of the trait for a source.
-/

namespace TraitDoc

/-- Why a source has no trait. -/
inductive RenderFault
  /-- The source of `name` does not have the shape of a declaration. -/
  | structure (name : Text) (fault : StructureFault)
  /-- The value member has a type that no trait can express. -/
  | valueType (fault : UnknownType)
deriving DecidableEq, Repr

/-- The fault in words. -/
def RenderFault.message : RenderFault → Text
  | .structure name fault => name ++ ": ".toList ++ fault.detail name
  | .valueType fault => "unexpected value type [".toList ++ fault.valueType ++ "]".toList

namespace Trait

/-- The declaration of the trait `name` with a body. -/
def declaration (name body : Text) : Text :=
  "trait ".toList ++ name ++ " extends java.lang.annotation.Annotation ".toList ++ body ++ ['\n']

/-- The header with the declared name at its end replaced by the trait's declaration. -/
def ofParts (name header body : Text) : Except RenderFault Text :=
  if name.isSuffixOf header then .ok (Text.withoutEnd header name.length ++ declaration name body)
  else .error (.structure name .nameLost)

/-- The text of the trait for the source that declares `name`. -/
def ofSource (name source : Text) : Except RenderFault Text := do
  let parts ← (Declaration.locate name source).mapError (.structure name)
  let body ← (Member.declare parts.body).mapError .valueType
  ofParts name (Plumbing.stripAroundComments parts.header) body

end Trait

end TraitDoc
