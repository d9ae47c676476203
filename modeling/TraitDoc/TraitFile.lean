import TraitDoc.Settings.Basic
import TraitDoc.Trait
/-!
# Source files and trait files

A source file is the text of one annotation, under its name. A trait file is what
is made of it: the text of the trait, where it goes, and the patch that is
registered under the name. What is written is the text followed by the patch.

## Main definitions

* `SourceFile`, `TraitFile`, `TraitFile.contents` — the files.
* `Settings.traitFile` — the trait file of a source file.
-/

namespace TraitDoc

/-- The text of an annotation. -/
structure SourceFile where
  filename : Text
  text : Text
  /-- The name that it declares. -/
  declaredName : Text
deriving DecidableEq, Repr

/-- The text of the trait that documents an annotation. -/
structure TraitFile where
  /-- The name of the source file. -/
  filename : Text
  path : FilePath
  text : Text
  /-- What is added to the text. -/
  patch : Option Text
deriving DecidableEq, Repr

namespace TraitFile

/-- What is written: the text followed by the patch. -/
def contents (t : TraitFile) : Text := t.text ++ t.patch.getD []

/-- Whether the patch adds anything. -/
def isPatched (t : TraitFile) : Bool := t.patch.any (!·.isEmpty)

end TraitFile

/-- The trait file of a source file. -/
def Settings.traitFile (s : Settings) (source : SourceFile) : Except RenderFault TraitFile := do
  let text ← Trait.ofSource source.declaredName source.text
  return {
    filename := source.filename
    path := s.targetPath source.filename
    text
    patch := s.patch? source.filename }

end TraitDoc
