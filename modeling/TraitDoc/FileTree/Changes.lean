import TraitDoc.FileTree.Basic
import TraitDoc.Text.Order
/-!
# Changes between two file trees

What a step did to a tree is told by comparing the tree before with the tree
after: entries that appeared, files that show another content, entries that went.
How the content of a file is shown is up to the reader; what does not show, such
as a time, is no change. An entry is known by its path from a common directory,
where the path of a directory ends in a slash; the changes come in the order of
these paths. A file in the place of a directory is a different entry for this
purpose.

## Main definitions

* `FileTree.listing` — all entries of a tree by their paths.
* `FileTree.Change`, `FileTree.changes` — the difference of two trees.
-/

namespace TraitDoc.FileTree

/-! ## Listing -/

mutual
/-- The entries of a tree that stands at `path`; a directory's path ends in a slash. -/
def listing (path : Text) : FileTree → List (Text × Option ByteArray)
  | .file content => [(path, some content)]
  | .directory entries => (path ++ ['/'], none) :: listingBelow (path ++ ['/']) entries

/-- The entries of a directory with that path. -/
def listingBelow (path : Text) : List (Text × FileTree) → List (Text × Option ByteArray)
  | [] => []
  | (name, tree) :: rest => listing (path ++ name) tree ++ listingBelow path rest
end

/-- The entries below the root of a tree. -/
def contents : FileTree → List (Text × Option ByteArray)
  | .file _ => []
  | .directory entries => listingBelow [] entries

/-! ## Comparing -/

/-- A difference between two trees, with the content of files that are new or different as it is shown. -/
inductive Change
  | added (path : Text) (content : Option Text)
  | modified (path : Text) (content : Text)
  | removed (path : Text)
deriving DecidableEq, Repr

/-- The entry that a change is about. -/
def Change.path : Change → Text
  | .added path _ => path
  | .modified path _ => path
  | .removed path => path

/-- The entries of a tree, with the content of files as it is shown. -/
def shown (display : ByteArray → Text) (t : FileTree) : List (Text × Option Text) :=
  t.contents.map fun e => (e.1, e.2.map display)

/-- The changes that lead from one tree to another, in the order of their paths. -/
def changes (display : ByteArray → Text) (before after : FileTree) : List Change :=
  let old := before.shown display
  let new := after.shown display
  let gone := old.filterMap fun e => if (new.lookup e.1).isNone then some (.removed e.1) else none
  let come := new.filterMap fun e =>
    match old.lookup e.1, e.2 with
    | none, content => some (.added e.1 content)
    | some (some before), some now => if before = now then none else some (.modified e.1 now)
    | some _, _ => none
  (gone ++ come).mergeSort fun a b => a.path.notAfter b.path

end TraitDoc.FileTree
