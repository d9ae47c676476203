import TraitDoc.FileFault
import TraitDoc.FileTree.Basic
/-!
# Where a program stands

A program stands in a directory. That directory can be removed under it, with
directories above it; then the program stands in a directory that has no place
any more, and no new one at the same place will do. Names lead out of it upwards
only: to the directory above, and in the end to one that is still there.

## Main definitions

* `Standing` — where a program stands.
* `Standing.enter` — the way out of removed directories.
* `Standing.without` — where a program stands after a removal.

## Main statements

* `Standing.enter_at` — from a directory that is there names are followed as they are.
-/

namespace TraitDoc

/-- Where a program stands. -/
structure Standing where
  /-- The innermost directory around the program that is there. -/
  place : Place
  /-- The number of removed directories below it in which the program stands. -/
  lost : Nat
deriving DecidableEq, Repr

namespace Standing

/-- A program in a directory that is there. -/
def «at» (place : Place) : Standing := ⟨place, 0⟩

/-- The names that are left when a directory is reached that is there, if one is reached. -/
def namesOutside : (lost : Nat) → List Text → Except FileCause (Option (List Text))
  | 0, names => .ok (some names)
  | _ + 1, [] => .ok none
  | lost + 1, name :: names =>
    if name = FilePath.parentName then namesOutside lost names else .error .notFound

/-- The directory that is there from which names are followed on, with the names that are left. -/
def enter (s : Standing) (names : List Text) : Except FileCause (Option (Place × List Text)) :=
  (namesOutside s.lost names).map fun left => left.map fun names => (s.place, names)

/-- Where the program stands after what stood at a place has been removed. -/
def without (s : Standing) (removed : Place) : Standing :=
  if removed.isPrefixOf s.place then
    ⟨removed.dropLast, s.lost + (s.place.length - removed.length) + 1⟩
  else s

/-- Where the program stands after all that was in the directory at a place has been removed. -/
def emptied (s : Standing) (place : Place) : Standing :=
  if place.isPrefixOf s.place then ⟨place, s.lost + (s.place.length - place.length)⟩ else s

/-- From a directory that is there names are followed as they are. -/
theorem enter_at (place : Place) (names : List Text) :
    (Standing.at place).enter names = .ok (some (place, names)) := rfl

end Standing

end TraitDoc
