import TraitDoc.Plumbing.Removal
import TraitDoc.Text.Word
/-!
# Annotation plumbing

The code around the documentation comments of an annotation declaration holds
marks that mean something to the Java compiler only: how long the annotation is
retained, where it may stand, that it is inherited, that it tags tests, the
keyword that declares it, and the imports all these need. Seven rules remove
them. Each rule makes one pass over the whole text, and the passes follow one
another in a fixed order, so that a later rule sees what an earlier one left.

No rule reaches over a line feed. A mark with arguments goes with them: up to
the first closing parenthesis of its line for retention and target, up to the
*last* one for the tag mark, since its arguments may hold parentheses.

## Main definitions

* `Plumbing.upToFirst`, `Plumbing.upToLast`, `Plumbing.markAlone`,
  `Plumbing.declaringKeyword`, `Plumbing.importLine` — the shapes of rules.
* `Plumbing.rules` — the seven rules, in order.
* `Plumbing.strip` — all passes.

## Main statements

* `Plumbing.strip_sublist` — stripping only deletes.
-/

namespace TraitDoc.Plumbing

/-! ## Marks -/

/-- The mark with its opening parenthesis that says how long an annotation is retained. -/
def retention : Text := "@Retention(".toList

/-- The mark with its opening parenthesis that says where an annotation may stand. -/
def target : Text := "@Target(".toList

/-- The mark of an annotation that tags tests. -/
def tag : Text := "@TagAnnotation".toList

/-- The mark of an annotation that subclasses inherit. -/
def inherited : Text := "@Inherited".toList

/-- The visibility before the declaring keyword. -/
def visibility : Text := "public".toList

/-- The keyword that declares an annotation. -/
def keyword : Text := "@interface".toList

/-- What an import line begins with. -/
def importWord : Text := "import".toList

/-! ## Rules -/

/-- `mark` and all that follows it up to the first closing parenthesis of the line. -/
def upToFirst (mark : Text) : StretchRule := fun _ s =>
  if mark.isPrefixOf s then
    match Text.indexOf? [')'] (Text.line (s.drop mark.length)) with
    | some i => mark.length + i + 1
    | none => 0
  else 0

/-- Whether `mark` stands where the text begins and the name it ends in goes no further. -/
def standsWhole (mark s : Text) : Bool :=
  mark.isPrefixOf s && isBoundary mark.getLast? (s.drop mark.length).head?

/-- `mark` as a whole word and all that follows it up to the last closing parenthesis of the line. -/
def upToLast (mark : Text) : StretchRule := fun _ s =>
  if standsWhole mark s then
    match Text.lastIndexOf? ')' (Text.line (s.drop mark.length)) with
    | some i => mark.length + i + 1
    | none => 0
  else 0

/-- `mark` alone, as a whole word. -/
def markAlone (mark : Text) : StretchRule := fun _ s =>
  if standsWhole mark s then mark.length else 0

/-- The declaring keyword with the visibility before it, however many spaces lie between. -/
def declaringKeyword : StretchRule := fun _ s =>
  if visibility.isPrefixOf s then
    let spaces := ((s.drop visibility.length).takeWhile (· == ' ')).length
    if keyword.isPrefixOf (s.drop (visibility.length + spaces)) then
      visibility.length + spaces + keyword.length
    else 0
  else 0

/-- A line that begins with the import word, without its line feed. -/
def importLine : StretchRule := fun lineStart s =>
  if lineStart && importWord.isPrefixOf s then (Text.line s).length else 0

/-- The rules, in the order of their passes. -/
def rules : List StretchRule :=
  [upToFirst retention, upToFirst target, upToLast tag, markAlone tag, markAlone inherited,
   declaringKeyword, importLine]

/-! ## Stripping -/

/-- The code without annotation plumbing and imports. -/
def strip (code : Text) : Text := rules.foldl (fun s rule => Text.removeAll rule s) code

theorem foldl_removeAll_sublist (rules : List StretchRule) (s : Text) :
    (rules.foldl (fun s rule => Text.removeAll rule s) s).Sublist s := by
  induction rules generalizing s with
  | nil => exact List.Sublist.refl s
  | cons rule rules ih => exact (ih _).trans (Text.removeAll_sublist rule s)

/-- Stripping only deletes. -/
theorem strip_sublist (code : Text) : (strip code).Sublist code :=
  foldl_removeAll_sublist rules code

theorem strip_nil : strip [] = [] := List.sublist_nil.1 (strip_sublist [])

end TraitDoc.Plumbing
