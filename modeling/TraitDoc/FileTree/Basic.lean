import TraitDoc.FilePath
/-!
# File trees

A file tree is a file with its bytes, or a directory with named trees in it.
There are no links, so a tree knows nothing but its content, and every entry
has one place: the list of names that leads to it from the root.

`FileTree.at?` reads the tree at a place and `FileTree.put` replaces what is
there. A tree can only be put below a directory that exists; anywhere else
`put` changes nothing. The name of an entry keeps its position in the
directory, so putting back what is there already gives back the same tree.

## Main definitions

* `FileTree`, `Place` — trees, and the places in them.
* `FileTree.at?`, `FileTree.put`, `FileTree.erase` — one place of a tree.
* `FileTree.Entry`, `FileTree.entry?` — what stands at a place, without what is below it.

## Main statements

* `FileTree.at?_put_self` — what was put below a directory can be read back.
* `FileTree.put_at?` — putting back what is there changes nothing.
-/

namespace TraitDoc

/-- A file, or a directory of named trees. -/
inductive FileTree
  | file (content : ByteArray)
  | directory (entries : List (Text × FileTree))

/-- The names that lead from the root to an entry. -/
abbrev Place := List Text

namespace FileTree

/-! ## Entries of a directory -/

/-- The entries with `name` standing for `tree`: in its old position, or last. -/
def putEntry (name : Text) (tree : FileTree) : List (Text × FileTree) → List (Text × FileTree)
  | [] => [(name, tree)]
  | (n, t) :: rest => if n = name then (n, tree) :: rest else (n, t) :: putEntry name tree rest

/-- The entries without `name`. -/
def eraseEntry (name : Text) (entries : List (Text × FileTree)) : List (Text × FileTree) :=
  entries.filter fun e => e.1 ≠ name

theorem lookup_putEntry_self (name : Text) (tree : FileTree) (entries : List (Text × FileTree)) :
    (putEntry name tree entries).lookup name = some tree := by
  induction entries with
  | nil => simp [putEntry]
  | cons e rest ih =>
    obtain ⟨n, t⟩ := e
    by_cases h : n = name
    · simp [putEntry, h]
    · have : (name == n) = false := by simpa using Ne.symm h
      simpa [putEntry, h, List.lookup_cons, this] using ih

theorem lookup_putEntry_of_ne {name other : Text} (h : other ≠ name) (tree : FileTree)
    (entries : List (Text × FileTree)) :
    (putEntry name tree entries).lookup other = entries.lookup other := by
  have hother : (other == name) = false := by simpa using h
  induction entries with
  | nil => simp [putEntry, List.lookup_cons, hother]
  | cons e rest ih =>
    obtain ⟨n, t⟩ := e
    by_cases hn : n = name
    · simp [putEntry, hn, List.lookup_cons, hother]
    · simp [putEntry, hn, List.lookup_cons, ih]

theorem putEntry_lookup {name : Text} {tree : FileTree} {entries : List (Text × FileTree)}
    (h : entries.lookup name = some tree) : putEntry name tree entries = entries := by
  induction entries with
  | nil => simp at h
  | cons e rest ih =>
    obtain ⟨n, t⟩ := e
    by_cases hn : n = name
    · subst hn
      rw [List.lookup_cons_self, Option.some.injEq] at h
      rw [putEntry, if_pos rfl, h]
    · have : (name == n) = false := by simpa using Ne.symm hn
      rw [List.lookup_cons, this] at h
      rw [putEntry, if_neg hn, ih h]

/-! ## Places of a tree -/

/-- What a directory holds under a name. -/
def child? (name : Text) : FileTree → Option FileTree
  | .file _ => none
  | .directory entries => entries.lookup name

/-- The tree that stands at a place. -/
def at? (t : FileTree) : Place → Option FileTree
  | [] => some t
  | name :: rest =>
    match t.child? name with
    | none => none
    | some sub => sub.at? rest

/-- The tree with another one put at a place; nothing changes where no directory holds that place. -/
def put (new : FileTree) : FileTree → Place → FileTree
  | _, [] => new
  | .file content, _ :: _ => .file content
  | .directory entries, [name] => .directory (putEntry name new entries)
  | .directory entries, name :: next :: rest =>
    match entries.lookup name with
    | none => .directory entries
    | some sub => .directory (putEntry name (put new sub (next :: rest)) entries)

/-- The tree without what stands at a place. -/
def erase : FileTree → Place → FileTree
  | _, [] => .directory []
  | .file content, _ :: _ => .file content
  | .directory entries, [name] => .directory (eraseEntry name entries)
  | .directory entries, name :: next :: rest =>
    match entries.lookup name with
    | none => .directory entries
    | some sub => .directory (putEntry name (erase sub (next :: rest)) entries)

/-- Whether a tree is a directory. -/
def isDirectory : FileTree → Bool
  | .file _ => false
  | .directory _ => true

/-- What was put below a directory can be read back. -/
theorem at?_put_self {new t : FileTree} {place : Place} {name : Text} {dir : FileTree}
    (hdir : t.at? place = some dir) (hd : dir.isDirectory = true) :
    (put new t (place ++ [name])).at? (place ++ [name]) = some new := by
  induction place generalizing t with
  | nil =>
    cases t with
    | file content =>
      simp only [at?, Option.some.injEq] at hdir
      rw [← hdir, isDirectory] at hd
      cases hd
    | directory entries => simp [put, at?, child?, lookup_putEntry_self]
  | cons first rest ih =>
    cases t with
    | file content => simp [at?, child?] at hdir
    | directory entries =>
      simp only [at?, child?] at hdir
      cases hsub : entries.lookup first with
      | none => simp [hsub] at hdir
      | some sub =>
        simp only [hsub] at hdir
        have := ih hdir
        cases hrest : rest ++ [name] with
        | nil => simp at hrest
        | cons second more =>
          rw [hrest] at this
          simp only [List.cons_append, hrest, put, hsub, at?, child?, lookup_putEntry_self]
          exact this

/-- Putting back what is there changes nothing. -/
theorem put_at? {t sub : FileTree} {place : Place} (h : t.at? place = some sub) :
    put sub t place = t := by
  induction place generalizing t with
  | nil =>
    simp only [at?, Option.some.injEq] at h
    rw [put, h]
  | cons name rest ih =>
    cases t with
    | file content => simp [at?, child?] at h
    | directory entries =>
      simp only [at?, child?] at h
      cases hsub : entries.lookup name with
      | none => simp [hsub] at h
      | some child =>
        simp only [hsub] at h
        cases rest with
        | nil =>
          simp only [at?, Option.some.injEq] at h
          rw [put, putEntry_lookup (h ▸ hsub)]
        | cons second more =>
          simp only [put, hsub]
          rw [ih h, putEntry_lookup hsub]

/-! ## Entries without their content -/

/-- What stands at a place, without what is below it. -/
inductive Entry
  | file (content : ByteArray)
  | directory

/-- A tree without what is below it. -/
def top : FileTree → Entry
  | .file content => .file content
  | .directory _ => .directory

/-- What stands at a place, without what is below it. -/
def entry? (t : FileTree) (place : Place) : Option Entry := (t.at? place).map top

end FileTree

end TraitDoc
